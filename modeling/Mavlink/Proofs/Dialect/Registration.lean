import Mathlib.Data.List.Forall2
import Mathlib.Data.List.Nodup
import Mavlink.NameMap
import Mavlink.Proofs.Dialect.Compilation

/-!
# Which dialects compile, and what is found in them

The messages of a dialect are registered one after the other, and the first one that cannot be ends
the compilation. A message is refused if its id needs more than 24 bits; otherwise if an earlier
message has its id; otherwise if it has no layout.

Ids are unique in what is registered, names need not be. So a message is found by its id wherever it
was declared, and by its name if it was the last one with this name.

## Main results

* `Registry.exists_first_refused`: messages that are not registrable have a first one that is
  refused.
* `Registry.compileMessages_of_refused`, `Registry.exists_compileMessages_concat`: one message.
* `Registry.exists_compileMessages_append`: a registrable beginning of the messages.
* `Registry.exists_compile`, `Registry.compile_of_first_refused`: the two ways to end.
* `Registry.Holds.messageNamed?_eq_get?`, `Registry.enum?_eq_get?`: searching from the end is
  looking up in a map into which all are entered one after the other.
* `Registry.compile_registers`: which dialects compile, the error of the others, and what is found
  in a compiled dialect.
-/

namespace Mavlink

/-- The **last** element with a property: those behind it do not have it. -/
def LastOf {α : Type} (p : α → Prop) (x : α) (xs : List α) : Prop :=
  ∃ front back, xs = front ++ x :: back ∧ p x ∧ ∀ y ∈ back, ¬ p y

/-- The last element with a property is one of the elements. -/
theorem LastOf.mem {α : Type} {p : α → Prop} {x : α} {xs : List α} (h : LastOf p x xs) :
    x ∈ xs := by
  obtain ⟨front, back, rfl, -, -⟩ := h
  exact List.mem_append_right front List.mem_cons_self

/-- Searching from the end finds the last element with a property. -/
theorem find?_reverse_eq_some_iff {α : Type} {p : α → Prop} [DecidablePred p] {xs : List α}
    {x : α} : xs.reverse.find? (fun y => decide (p y)) = some x ↔ LastOf p x xs := by
  rw [List.find?_eq_some_iff_append, decide_eq_true_eq]
  constructor
  · rintro ⟨hx, front, back, hsplit, hfront⟩
    refine ⟨back.reverse, front.reverse, ?_, hx, ?_⟩
    · rw [← List.reverse_reverse xs, hsplit, List.reverse_append, List.reverse_cons,
        List.append_assoc, List.singleton_append]
    · intro y hy
      simpa using hfront y (List.mem_reverse.1 hy)
  · rintro ⟨front, back, rfl, hx, hback⟩
    refine ⟨hx, back.reverse, front.reverse, ?_, ?_⟩
    · rw [List.reverse_append, List.reverse_cons, List.append_assoc, List.singleton_append]
    · intro y hy
      simpa using hback y (List.mem_reverse.1 hy)

/-- **Searching from the end** finds what a map of the elements under their names has, if they are
entered one after the other. -/
theorem get?_ofList_map {α β : Type} (name : α → String) (value : α → β) (xs : List α)
    (key : String) : (NameMap.ofList (xs.map fun x => (name x, value x))).get? key =
      (xs.reverse.find? fun x => name x = key).map value := by
  have hlookup : ∀ ys : List α, NameMap.lookup key (ys.map fun x => (name x, value x)) =
      (ys.find? fun x => name x = key).map value := by
    intro ys
    induction ys with
    | nil => rfl
    | cons y ys ih =>
        rw [List.map_cons, NameMap.lookup, List.find?_cons, ih]
        by_cases hkey : key = name y
        · rw [if_pos hkey, decide_eq_true hkey.symm]
          rfl
        · rw [if_neg hkey, decide_eq_false (Ne.symm hkey)]
  have hentered := NameMap.get?_ofList_reverse (xs.reverse.map fun x => (name x, value x)) key
  rw [List.map_reverse, List.reverse_reverse] at hentered
  rw [hentered, ← List.map_reverse, hlookup]

/-- Among elements of which some have a property there is a last one. -/
theorem exists_lastOf_iff {α : Type} {p : α → Prop} [DecidablePred p] {xs : List α} :
    (∃ x, LastOf p x xs) ↔ ∃ x ∈ xs, p x := by
  simp only [← find?_reverse_eq_some_iff, ← Option.isSome_iff_exists, List.find?_isSome,
    List.mem_reverse, decide_eq_true_eq]

namespace Registry

/-! ### Which messages are refused -/

/-- Messages are **registrable** if their ids have at most 24 bits, no two of them have the same id,
and each has a layout. -/
structure Registrable (messages : List MessageDeclaration) : Prop where
  id_le : ∀ m ∈ messages, m.id.toNat ≤ 0xffffff
  nodup_ids : (messages.map MessageDeclaration.id).Nodup
  compiles : ∀ m ∈ messages, ∃ l, Layout.compile m = .ok l

/-- A message is **refused** after others with an error. -/
inductive Refused (before : List MessageDeclaration) (m : MessageDeclaration) :
    CompileError → Prop
  | idOutOfRange (hid : 0xffffff < m.id.toNat) :
      Refused before m (.messageIdOutOfRange m.name m.id)
  | duplicateId {first : MessageDeclaration} (hid : m.id.toNat ≤ 0xffffff)
      (hfirst : first ∈ before) (hsame : first.id = m.id) :
      Refused before m (.duplicateMessageId m.id first.name m.name)
  | noLayout {e : CompileError} (hid : m.id.toNat ≤ 0xffffff)
      (hfresh : ∀ first ∈ before, first.id ≠ m.id) (hcompile : Layout.compile m = .error e) :
      Refused before m e

section Messages

variable {before front rest : List MessageDeclaration} {m : MessageDeclaration}

/-- No messages are registrable. -/
theorem registrable_nil : Registrable [] where
  id_le := by simp
  nodup_ids := List.nodup_nil
  compiles := by simp

/-- The first of registrable messages are registrable. -/
theorem Registrable.of_append (h : Registrable (front ++ rest)) : Registrable front where
  id_le m hm := h.id_le m (List.mem_append_left rest hm)
  nodup_ids := h.nodup_ids.sublist ((List.sublist_append_left front rest).map _)
  compiles m hm := h.compiles m (List.mem_append_left rest hm)

/-- What a message needs to be registered after others. -/
theorem registrable_concat_iff (hbefore : Registrable before) :
    Registrable (before ++ [m]) ↔ m.id.toNat ≤ 0xffffff ∧
      (∀ first ∈ before, first.id ≠ m.id) ∧ ∃ l, Layout.compile m = .ok l := by
  have hlast : m ∈ before ++ [m] := List.mem_append_right before (List.mem_singleton_self m)
  constructor
  · intro h
    refine ⟨h.id_le m hlast, ?_, h.compiles m hlast⟩
    intro first hfirst
    have hnodup := h.nodup_ids
    rw [List.map_append, List.nodup_append] at hnodup
    exact hnodup.2.2 first.id (List.mem_map_of_mem hfirst) m.id (List.mem_singleton_self m.id)
  · rintro ⟨hid, hfresh, hlayout⟩
    refine ⟨?_, ?_, ?_⟩
    · simpa [or_imp, forall_and] using ⟨hbefore.id_le, hid⟩
    · rw [List.map_append, List.nodup_append]
      refine ⟨hbefore.nodup_ids, List.nodup_singleton m.id, ?_⟩
      intro id hid id' hid'
      obtain ⟨first, hfirst, rfl⟩ := List.mem_map.1 hid
      rw [List.mem_singleton.1 hid']
      exact hfresh first hfirst
    · simpa [or_imp, forall_and] using ⟨hbefore.compiles, hlayout⟩

/-- **A message that cannot be registered is refused.** -/
theorem exists_refused (hbefore : Registrable before) (h : ¬ Registrable (before ++ [m])) :
    ∃ e, Refused before m e := by
  rw [registrable_concat_iff hbefore] at h
  by_cases hid : m.id.toNat ≤ 0xffffff
  · by_cases hfresh : ∀ first ∈ before, first.id ≠ m.id
    · cases hcompile : Layout.compile m with
      | error e => exact ⟨e, .noLayout hid hfresh hcompile⟩
      | ok l => exact absurd ⟨hid, hfresh, l, hcompile⟩ h
    · push Not at hfresh
      obtain ⟨first, hfirst, hsame⟩ := hfresh
      exact ⟨_, .duplicateId hid hfirst hsame⟩
  · exact ⟨_, .idOutOfRange (Nat.lt_of_not_le hid)⟩

/-- **The first message that is refused.** -/
theorem exists_first_refused {messages : List MessageDeclaration} (h : ¬ Registrable messages) :
    ∃ before m after e,
      messages = before ++ m :: after ∧ Registrable before ∧ Refused before m e := by
  induction messages using List.reverseRecOn with
  | nil => exact absurd registrable_nil h
  | append_singleton messages m ih =>
      by_cases hmessages : Registrable messages
      · obtain ⟨e, he⟩ := exists_refused hmessages h
        exact ⟨messages, m, [], e, rfl, hmessages, he⟩
      · obtain ⟨before, m', after, e, rfl, hbefore, he⟩ := ih hmessages
        exact ⟨before, m', after ++ [m], e, by simp, hbefore, he⟩

end Messages

/-! ### Registering one message -/

/-- Layouts **compile** messages if each of them is the layout of its message. -/
def Compiles (messages : List MessageDeclaration) (layouts : List Layout) : Prop :=
  List.Forall₂ (fun m l => Layout.compile m = .ok l) messages layouts

section Lookup

variable {messages : List MessageDeclaration} {layouts : List Layout}

/-- Searching the layouts is searching the messages, if both are searched for the same. -/
theorem Compiles.find?_eq_some_iff (h : Compiles messages layouts) {p : MessageDeclaration → Bool}
    {q : Layout → Bool} (hpq : ∀ m l, Layout.compile m = .ok l → p m = q l) {l : Layout} :
    layouts.find? q = some l ↔ ∃ m, messages.find? p = some m ∧ Layout.compile m = .ok l := by
  induction h with
  | nil => simp
  | @cons m l' messages layouts hcompile _ ih =>
      rw [List.find?_cons, List.find?_cons, hpq m l' hcompile]
      cases q l' with
      | false => exact ih
      | true =>
          constructor
          · intro hl
            exact ⟨m, rfl, hcompile.trans (congrArg _ (Option.some.inj hl))⟩
          · rintro ⟨m', hm, hcompile'⟩
            obtain rfl := Option.some.inj hm
            exact congrArg some (Except.ok.inj (hcompile.symm.trans hcompile'))

/-- Two registrable messages with one id are one. -/
theorem Registrable.find?_id_eq_some_iff (h : Registrable messages) {id : UInt32}
    {m : MessageDeclaration} :
    messages.find? (fun m => m.id = id) = some m ↔ m ∈ messages ∧ m.id = id := by
  constructor
  · intro hm
    exact ⟨List.mem_of_find?_eq_some hm, by simpa using List.find?_some hm⟩
  · rintro ⟨hm, rfl⟩
    cases hfind : messages.find? fun m' => m'.id = m.id with
    | none => exact absurd (decide_eq_true rfl) (List.find?_eq_none.1 hfind m hm)
    | some m' =>
        have hid : m'.id = m.id := by simpa using List.find?_some hfind
        exact congrArg some
          (List.inj_on_of_nodup_map h.nodup_ids (List.mem_of_find?_eq_some hfind) hm hid)

/-- **The layout with an id** is that of the one message with the id. -/
theorem Compiles.find?_id_eq_some_iff (h : Compiles messages layouts) (hreg : Registrable messages)
    {id : UInt32} {l : Layout} : layouts.find? (fun l => l.id = id) = some l ↔
      ∃ m ∈ messages, m.id = id ∧ Layout.compile m = .ok l := by
  rw [h.find?_eq_some_iff (p := fun m => m.id = id)]
  · simp only [hreg.find?_id_eq_some_iff, and_assoc]
  · intro m l hcompile
    rw [Layout.id_of_compile hcompile]

/-- There is no layout with an id if no message has it. -/
theorem Compiles.find?_id_eq_none_iff (h : Compiles messages layouts)
    (hreg : Registrable messages) {id : UInt32} :
    layouts.find? (fun l => l.id = id) = none ↔ ∀ m ∈ messages, m.id ≠ id := by
  constructor
  · intro hnone m hm hid
    obtain ⟨l, hcompile⟩ := hreg.compiles m hm
    have hsome := (h.find?_id_eq_some_iff hreg).2 ⟨m, hm, hid, hcompile⟩
    rw [hnone] at hsome
    cases hsome
  · intro hfresh
    rw [Option.eq_none_iff_forall_ne_some]
    intro l hl
    obtain ⟨m, hm, hid, -⟩ := (h.find?_id_eq_some_iff hreg).1 hl
    exact hfresh m hm hid

/-- **The last layout with a name** is that of the last message with the name. -/
theorem Compiles.find?_name_eq_some_iff (h : Compiles messages layouts) {name : String}
    {l : Layout} : layouts.reverse.find? (fun l => l.name = name) = some l ↔
      ∃ m, LastOf (fun m => m.name = name) m messages ∧ Layout.compile m = .ok l := by
  have hreverse : Compiles messages.reverse layouts.reverse := List.forall₂_reverse_iff.2 h
  rw [hreverse.find?_eq_some_iff (p := fun m => m.name = name)]
  · simp only [find?_reverse_eq_some_iff]
  · intro m l hcompile
    rw [Layout.name_of_compile hcompile]

end Lookup

/-- An id is too large for the second version if it takes more than 24 bits. -/
theorem maxMessageId_lt_iff {id : UInt32} :
    Version.v2.maxMessageId < id ↔ 0xffffff < id.toNat :=
  UInt32.lt_iff_toNat_lt

section Step

variable {before : List MessageDeclaration} {m : MessageDeclaration} {done : List Layout}

/-- **A refused message** ends the compilation with its error. -/
theorem compileMessages_of_refused {e : CompileError} (hbefore : Registrable before)
    (hdone : Compiles before done) (he : Refused before m e) (rest : List MessageDeclaration) :
    compileMessages done (m :: rest) = .error e := by
  rw [compileMessages]
  cases he with
  | idOutOfRange hid => rw [if_pos (maxMessageId_lt_iff.2 hid)]
  | duplicateId hid hfirst hsame =>
      obtain ⟨l, hcompile⟩ := hbefore.compiles _ hfirst
      have hfound := (hdone.find?_id_eq_some_iff hbefore).2 ⟨_, hfirst, hsame, hcompile⟩
      rw [if_neg (maxMessageId_lt_iff.not.2 (Nat.not_lt.2 hid)), hfound,
        ← Layout.name_of_compile hcompile]
  | noLayout hid hfresh hcompile =>
      have hnone := (hdone.find?_id_eq_none_iff hbefore).2 hfresh
      rw [if_neg (maxMessageId_lt_iff.not.2 (Nat.not_lt.2 hid)), hnone, hcompile]
      rfl

/-- **A message that is registered** leaves its layout behind. -/
theorem exists_compileMessages_concat (hbefore : Registrable before) (hdone : Compiles before done)
    (h : Registrable (before ++ [m])) : ∃ l, Compiles (before ++ [m]) (done ++ [l]) ∧
      ∀ rest, compileMessages done (m :: rest) = compileMessages (done ++ [l]) rest := by
  obtain ⟨hid, hfresh, l, hcompile⟩ := (registrable_concat_iff hbefore).1 h
  have hnone := (hdone.find?_id_eq_none_iff hbefore).2 hfresh
  refine ⟨l, List.rel_append hdone (.cons hcompile .nil), ?_⟩
  intro rest
  rw [compileMessages, if_neg (maxMessageId_lt_iff.not.2 (Nat.not_lt.2 hid)), hnone, hcompile]
  rfl

end Step

/-! ### Registering all messages -/

/-- **A registrable beginning** of the messages leaves its layouts behind. -/
theorem exists_compileMessages_append {before front : List MessageDeclaration}
    {done : List Layout} (hdone : Compiles before done) (h : Registrable (before ++ front)) :
    ∃ layouts, Compiles (before ++ front) layouts ∧
      ∀ rest, compileMessages done (front ++ rest) = compileMessages layouts rest := by
  induction front generalizing before done with
  | nil => exact ⟨done, by rwa [List.append_nil], fun _ => rfl⟩
  | cons m front ih =>
      rw [List.append_cons] at h ⊢
      obtain ⟨l, hlayouts, hstep⟩ := exists_compileMessages_concat h.of_append.of_append hdone
        h.of_append
      obtain ⟨layouts, hall, hrun⟩ := ih hlayouts h
      exact ⟨layouts, hall, fun rest => (hstep _).trans (hrun rest)⟩

/-- Registrable messages compile. -/
theorem exists_compileMessages {messages : List MessageDeclaration} (h : Registrable messages) :
    ∃ layouts, Compiles messages layouts ∧ compileMessages [] messages = .ok layouts := by
  have hstart : Compiles [] [] := .nil
  obtain ⟨layouts, hlayouts, hrun⟩ := exists_compileMessages_append hstart h
  refine ⟨layouts, hlayouts, ?_⟩
  have hall := hrun []
  rwa [List.append_nil] at hall

/-- After a registrable beginning of the messages, the message that is refused tells the error. -/
theorem compileMessages_of_first_refused {before after : List MessageDeclaration}
    {m : MessageDeclaration} {e : CompileError} (hbefore : Registrable before)
    (he : Refused before m e) : compileMessages [] (before ++ m :: after) = .error e := by
  have hstart : Compiles [] [] := .nil
  obtain ⟨layouts, hlayouts, hrun⟩ := exists_compileMessages_append hstart hbefore
  rw [hrun]
  exact compileMessages_of_refused hbefore hlayouts he after

/-! ### What is found -/

/-- A registry **holds** a dialect: its messages are found by their ids, and by the names that no
later message has; they are listed by ascending ids; and of the enumerations that share a name the
last one is found. Their extra bytes and least lengths are known for exactly these messages. -/
structure Holds (r : Registry) (d : Dialect) : Prop where
  message?_eq_some_iff : ∀ id l, r.message? id = some l ↔
    ∃ m ∈ d.messages, m.id = id ∧ Layout.compile m = .ok l
  message?_eq_none_iff : ∀ id, r.message? id = none ↔ ∀ m ∈ d.messages, m.id ≠ id
  messages_ascending : r.messages.Pairwise fun a b => a.id < b.id
  messages_perm : ∃ layouts, Compiles d.messages layouts ∧ r.messages.Perm layouts
  messageNamed?_eq_some_iff : ∀ name l, r.messageNamed? name = some l ↔
    ∃ m, LastOf (fun m => m.name = name) m d.messages ∧ Layout.compile m = .ok l
  messageNamed?_isSome_iff : ∀ name, (r.messageNamed? name).isSome ↔
    ∃ m ∈ d.messages, m.name = name
  name_of_messageNamed? : ∀ name l, r.messageNamed? name = some l → l.name = name
  enum?_eq_some_iff : ∀ name e, r.enum? name = some e ↔ LastOf (fun e => e.name = name) e d.enums
  enum?_isSome_iff : ∀ name, (r.enum? name).isSome ↔ ∃ e ∈ d.enums, e.name = name
  crcExtra?_isSome_iff : ∀ id, (r.crcExtra? id).isSome ↔ ∃ m ∈ d.messages, m.id = id
  minPayloadSize?_isSome_iff : ∀ version id, (r.minPayloadSize? version id).isSome ↔
    ∃ m ∈ d.messages, m.id = id
  sizes : ∀ id l, r.message? id = some l → r.crcExtra? id = some l.crcExtra ∧
    r.minPayloadSize? .v1 id = some l.maxSize ∧ r.minPayloadSize? .v2 id = some l.minSize ∧
    (l.Fits → l.minSize ≤ l.maxSize) ∧ l.maxSize ≤ 255

section Holds

variable {messages : List MessageDeclaration} {layouts : List Layout}

/-- **The messages in ascending order.** -/
theorem Compiles.pairwise_mergeSort (h : Compiles messages layouts) (hreg : Registrable messages) :
    (layouts.mergeSort fun a b => a.id ≤ b.id).Pairwise fun a b => a.id < b.id := by
  have hids : layouts.map Layout.id = messages.map MessageDeclaration.id := by
    clear hreg
    induction h with
    | nil => rfl
    | cons hcompile _ ih =>
        rw [List.map_cons, List.map_cons, ih, Layout.id_of_compile hcompile]
  have hsorted : (layouts.mergeSort fun a b => a.id ≤ b.id).Pairwise
      fun a b => decide (a.id ≤ b.id) = true :=
    List.pairwise_mergeSort (by simpa using fun a b c => UInt32.le_trans)
      (by simpa using fun a b => UInt32.le_total _ _) layouts
  have hdistinct : (layouts.mergeSort fun a b => a.id ≤ b.id).Pairwise
      fun a b => a.id ≠ b.id := by
    rw [← List.pairwise_map (f := Layout.id) (R := fun i j => i ≠ j)]
    refine ((List.mergeSort_perm layouts _).map Layout.id).nodup_iff.2 ?_
    rw [hids]
    exact hreg.nodup_ids
  refine (hsorted.and hdistinct).imp ?_
  rintro a b ⟨hle, hne⟩
  exact UInt32.lt_of_le_of_ne (of_decide_eq_true hle) hne

/-- **What is found** among the layouts of registrable messages. -/
theorem holds_of_compiles {r : Registry} {d : Dialect} (h : Compiles d.messages r.layouts)
    (hreg : Registrable d.messages) (henums : r.enums = d.enums) : r.Holds d := by
  have hmessage : ∀ {id l}, r.message? id = some l ↔
      ∃ m ∈ d.messages, m.id = id ∧ Layout.compile m = .ok l := h.find?_id_eq_some_iff hreg
  have hnamed : ∀ {name l}, r.messageNamed? name = some l ↔
      ∃ m, LastOf (fun m => m.name = name) m d.messages ∧ Layout.compile m = .ok l :=
    h.find?_name_eq_some_iff
  have hknown : ∀ id, (r.message? id).isSome ↔ ∃ m ∈ d.messages, m.id = id := by
    intro id
    rw [Option.isSome_iff_ne_none, Ne, message?, h.find?_id_eq_none_iff hreg]
    push Not
    rfl
  exact {
    message?_eq_some_iff := fun id l => hmessage
    message?_eq_none_iff := fun id => h.find?_id_eq_none_iff hreg
    messages_ascending := h.pairwise_mergeSort hreg
    messages_perm := ⟨r.layouts, h, List.mergeSort_perm _ _⟩
    messageNamed?_eq_some_iff := fun name l => hnamed
    messageNamed?_isSome_iff := by
      intro name
      rw [Option.isSome_iff_exists, ← exists_lastOf_iff]
      constructor
      · rintro ⟨l, hl⟩
        obtain ⟨m, hlast, -⟩ := hnamed.1 hl
        exact ⟨m, hlast⟩
      · rintro ⟨m, hlast⟩
        obtain ⟨l, hcompile⟩ := hreg.compiles m hlast.mem
        exact ⟨l, hnamed.2 ⟨m, hlast, hcompile⟩⟩
    name_of_messageNamed? := by
      intro name l hl
      obtain ⟨m, ⟨front, back, -, hname, -⟩, hcompile⟩ := hnamed.1 hl
      exact (Layout.name_of_compile hcompile).trans hname
    enum?_eq_some_iff := by
      intro name e
      rw [enum?, henums]
      exact find?_reverse_eq_some_iff
    enum?_isSome_iff := by
      intro name
      rw [enum?, henums, Option.isSome_iff_exists, ← exists_lastOf_iff]
      simp only [find?_reverse_eq_some_iff]
    crcExtra?_isSome_iff := by
      intro id
      rw [crcExtra?, Option.isSome_map, hknown]
    minPayloadSize?_isSome_iff := by
      intro version id
      rw [minPayloadSize?, Option.isSome_map, hknown]
    sizes := by
      intro id l hl
      obtain ⟨m, -, -, hcompile⟩ := hmessage.1 hl
      refine ⟨?_, ?_, ?_, ?_, Layout.maxSize_le hcompile⟩
      · rw [crcExtra?, hl, Option.map_some]
      · rw [minPayloadSize?, hl, Option.map_some]
      · rw [minPayloadSize?, hl, Option.map_some]
      · intro hfits
        obtain ⟨base, extensions, hplace⟩ := Layout.placement_of_compile hcompile hfits
        exact hplace.minSize_le_maxSize }

end Holds

/-! ### Maps of names -/

/-- The messages of a registry that holds a dialect have different ids. -/
theorem Holds.nodup_ids {r : Registry} {d : Dialect} (h : r.Holds d) :
    (r.layouts.map Layout.id).Nodup := by
  have hsorted : (r.messages.map Layout.id).Nodup :=
    List.pairwise_map.2 (h.messages_ascending.imp UInt32.ne_of_lt)
  exact ((List.mergeSort_perm r.layouts _).map Layout.id).nodup_iff.1 hsorted

/-- **A message is found by the id that its name stands for** in the map of names, into which the
ids are entered in the order of declaration. -/
theorem Holds.messageNamed?_eq_get? {r : Registry} {d : Dialect} (h : r.Holds d) (name : String) :
    r.messageNamed? name =
      (NameMap.ofList (r.layouts.map fun l => (l.name, l.id))).get? name >>= r.message? := by
  rw [get?_ofList_map, messageNamed?]
  cases hfind : r.layouts.reverse.find? fun l => l.name = name with
  | none => rfl
  | some l =>
      have hmem := List.mem_reverse.1 (List.mem_of_find?_eq_some hfind)
      show some l = r.message? l.id
      rw [message?]
      cases hid : r.layouts.find? fun m => m.id = l.id with
      | none => exact absurd (decide_eq_true rfl) (List.find?_eq_none.1 hid l hmem)
      | some m =>
          have hsame : m.id = l.id := by simpa using List.find?_some hid
          exact congrArg some
            (List.inj_on_of_nodup_map h.nodup_ids (List.mem_of_find?_eq_some hid) hmem hsame).symm

/-- **An enumeration is found** in the map of enumerations, into which they are entered in the order
of declaration. -/
theorem enum?_eq_get? (r : Registry) (name : String) :
    r.enum? name = (NameMap.ofList (r.enums.map fun e => (e.name, e))).get? name := by
  rw [get?_ofList_map, Option.map_id', enum?]

/-! ### Which dialects compile -/

/-- **A dialect with registrable messages compiles**, and its registry holds it. -/
theorem exists_compile {d : Dialect} (h : Registrable d.messages) :
    ∃ r, compile d = .ok r ∧ r.Holds d := by
  obtain ⟨layouts, hlayouts, hcompile⟩ := exists_compileMessages h
  refine ⟨{ dialectName := d.name, layouts, enums := d.enums }, ?_, ?_⟩
  · rw [compile, hcompile]
    rfl
  · exact holds_of_compiles hlayouts h rfl

/-- **The first message that is refused** tells the error of its dialect. -/
theorem compile_of_first_refused {d : Dialect} {before after : List MessageDeclaration}
    {m : MessageDeclaration} {e : CompileError} (hsplit : d.messages = before ++ m :: after)
    (hbefore : Registrable before) (he : Refused before m e) : compile d = .error e := by
  rw [compile, hsplit, compileMessages_of_first_refused hbefore he]
  rfl

/-- **Which dialects compile, and what is found in them.** A dialect compiles if all of its messages
are registrable. Otherwise the error is that of the first message that is refused, where all before
it are registrable. The registry of a dialect that compiles holds it. The least length of a message
is at most its greatest one if the message fits. -/
theorem compile_registers (d : Dialect) :
    ((∃ r, compile d = .ok r) ↔ Registrable d.messages) ∧
    (∀ e, compile d = .error e ↔ ∃ before m after,
      d.messages = before ++ m :: after ∧ Registrable before ∧ Refused before m e) ∧
    ∀ r, compile d = .ok r → r.Holds d := by
  have herror : ∀ e, (∃ before m after, d.messages = before ++ m :: after ∧ Registrable before ∧
      Refused before m e) → compile d = .error e := by
    rintro e ⟨before, m, after, hsplit, hbefore, he⟩
    exact compile_of_first_refused hsplit hbefore he
  by_cases hreg : Registrable d.messages
  · obtain ⟨r, hr, hholds⟩ := exists_compile hreg
    refine ⟨iff_of_true ⟨r, hr⟩ hreg, fun e => ⟨?_, herror e⟩, ?_⟩
    · intro h
      rw [hr] at h
      cases h
    · intro r' h
      rw [hr] at h
      obtain rfl := Except.ok.inj h
      exact hholds
  · obtain ⟨before, m, after, e, hfirst⟩ := exists_first_refused hreg
    have hr := herror e ⟨before, m, after, hfirst⟩
    refine ⟨iff_of_false ?_ hreg, fun e' => ⟨?_, herror e'⟩, ?_⟩
    · rintro ⟨r, h⟩
      rw [hr] at h
      cases h
    · intro h
      rw [hr] at h
      obtain rfl := Except.error.inj h
      exact ⟨before, m, after, hfirst⟩
    · intro r h
      rw [hr] at h
      cases h

/-- The sample dialect compiles. With one more message that has the id of the first one it does
not. -/
theorem compile_registers_sample :
    let copy := { Sample.statusText with id := 0, name := "HEARTBEAT_COPY" }
    Sample.registry.Holds Sample.dialect ∧
      compile { Sample.dialect with messages := Sample.dialect.messages ++ [copy] } =
        .error (.duplicateMessageId 0 "HEARTBEAT" "HEARTBEAT_COPY") := by
  intro copy
  obtain ⟨hcompile, -, hholds⟩ := compile_registers Sample.dialect
  have hregistrable : Registrable Sample.dialect.messages :=
    hcompile.1 ⟨Sample.registry, Sample.compile_dialect⟩
  have hfirst : Sample.heartbeat ∈ Sample.dialect.messages := List.mem_cons_self
  have hrefused : Refused Sample.dialect.messages copy
      (.duplicateMessageId 0 "HEARTBEAT" "HEARTBEAT_COPY") :=
    .duplicateId (by decide) hfirst rfl
  constructor
  · exact hholds Sample.registry Sample.compile_dialect
  · obtain ⟨-, herror, -⟩ :=
      compile_registers { Sample.dialect with messages := Sample.dialect.messages ++ [copy] }
    exact (herror _).2 ⟨Sample.dialect.messages, copy, [], rfl, hregistrable, hrefused⟩

/-- The least length of a message that does not fit may be more than its greatest one. -/
theorem minPayloadSize?_of_wrapped : ∃ r,
    compile { name := "wrapped", messages := [Sample.wrappedExtension], enums := [] } = .ok r ∧
      r.minPayloadSize? .v1 1 = some 5 ∧ r.minPayloadSize? .v2 1 = some 10 :=
  ⟨Sample.registryOf Sample.wrappedExtension, (Sample.compile_wrapped _ List.mem_cons_self).1,
    by decide +kernel, by decide +kernel⟩

end Registry

end Mavlink
