import Mavlink.Dialect.Layout
import Mavlink.Proofs.Text.Lexical

/-!
# Which types can be declared

A declared type *spells* a wire type by its name, or by the name of a heartbeat's version byte, and
the length of an array by a pair of brackets behind the name with a positive number in it. Blanks
may stand around the name, behind the bracket and around the number.

The name and the number are searched for independently of each other: the name ends at the first
opening bracket, and the number ends at the first closing one. That the two agree on a spelling is
the content of this module. Neither of them looks at what stands behind the closing bracket, so
this may be any text, other brackets included.

## Main results

* `TypeName.wireType?_eq_some_iff`: which types name a wire type.
* `TypeName.brackets_cases`: what the brackets of a type say.
* `TypeName.resolve_eq_ok_iff`: which types are resolved.
* `Layout.resolveField_eq_iff`: which fields are accepted, and why the others are not.
-/

namespace Mavlink

open Text

/-! ### The first occurrence of a character -/

/-- A character that does not occur differs from each that does. -/
theorem forall_ne_of_notMem {c : Char} {front : List Char} (h : c ∉ front) :
    ∀ x ∈ front, decide (x ≠ c) = true :=
  fun _ hx => decide_eq_true fun heq => h (heq ▸ hx)

/-- What stands before the first occurrence of a character is the part without it. -/
theorem takeWhile_ne_append {c : Char} {front : List Char} (h : c ∉ front) (rest : List Char) :
    (front ++ c :: rest).takeWhile (· ≠ c) = front := by
  rw [List.takeWhile_append_of_pos (forall_ne_of_notMem h),
    List.takeWhile_cons_of_neg (by simp), List.append_nil]

/-- What is left starts at the first occurrence of the character. -/
theorem dropWhile_ne_append {c : Char} {front : List Char} (h : c ∉ front) (rest : List Char) :
    (front ++ c :: rest).dropWhile (· ≠ c) = c :: rest := by
  rw [List.dropWhile_append_of_pos (forall_ne_of_notMem h),
    List.dropWhile_cons_of_neg (by simp)]

/-- The texts before and behind the first occurrence of a character are determined. -/
theorem eq_of_first_eq {c : Char} {front front' rest rest' : List Char} (h : c ∉ front)
    (h' : c ∉ front') (heq : front ++ c :: rest = front' ++ c :: rest') :
    front = front' ∧ rest = rest' := by
  have hfront := congrArg (List.takeWhile (· ≠ c)) heq
  rw [takeWhile_ne_append h, takeWhile_ne_append h'] at hfront
  subst hfront
  exact ⟨rfl, (List.cons.inj (List.append_cancel_left heq)).2⟩

/-- A character is found first behind the part without it. -/
theorem idxOf?_append {c : Char} {front : List Char} (h : c ∉ front) (rest : List Char) :
    (front ++ c :: rest).idxOf? c = some front.length := by
  rw [List.idxOf?_eq_some_iff]
  refine ⟨by simp, by simp, fun j hj hget => h ?_⟩
  rw [List.getElem_append_left hj] at hget
  exact hget ▸ List.getElem_mem hj

namespace TypeName

variable {cs : List Char} {t : WireType}

/-! ### The grammar -/

/-- A declared type **names** a wire type. Behind a name, brackets may open. -/
inductive Names : List Char → WireType → Prop
  | single {before after t} (hbefore : AreBlank before) (hafter : AreBlank after) :
      Names (before ++ t.name.toList ++ after) t
  | version {before after} (hbefore : AreBlank before) (hafter : AreBlank after) :
      Names (before ++ versionAlias.toList ++ after) .uint8
  | bracket {before gap rest t} (hbefore : AreBlank before) (hgap : AreBlank gap) :
      Names (before ++ t.name.toList ++ gap ++ '[' :: rest) t

/-- A declared type **spells** a wire type, the length in its brackets, if there are any, and the
text behind the closing one. -/
inductive Spells : List Char → WireType → Option Nat → List Char → Prop
  | single {before after t} (hbefore : AreBlank before) (hafter : AreBlank after) :
      Spells (before ++ t.name.toList ++ after) t none []
  | version {before after} (hbefore : AreBlank before) (hafter : AreBlank after) :
      Spells (before ++ versionAlias.toList ++ after) .uint8 none []
  | array {before gap left number right behind t n} (hbefore : AreBlank before)
      (hgap : AreBlank gap) (hleft : AreBlank left) (hnumber : Writes number n)
      (hright : AreBlank right) (hpos : 0 < n) (hbound : n < lengthBound) :
      Spells (before ++ t.name.toList ++ gap ++ '[' :: (left ++ number ++ right ++ ']' :: behind))
        t (some n) behind

/-- The length in the brackets and the length that is given apart from the type **set** the length
of a field: they agree if both are given. -/
inductive Sets : Option Nat → Nat → Nat → Prop
  | apart {explicit} : Sets none explicit explicit
  | brackets {n} : Sets (some n) 0 n
  | both {n} : Sets (some n) n n

/-! ### Names -/

/-- No name of a type has a bracket. -/
theorem bracket_notMem_name : '[' ∉ t.name.toList ∧ ']' ∉ t.name.toList := by
  cases t <;> decide

/-- No name of a type has blanks around it. -/
theorem isTrimmed_name : IsTrimmed t.name.toList :=
  isTrimmed_of_forall (by cases t <;> decide) (not_blank_of_all (by cases t <;> decide))

/-- The further name for a version has no blanks around it. -/
theorem isTrimmed_versionAlias : IsTrimmed versionAlias.toList :=
  isTrimmed_of_forall (by decide) (not_blank_of_all (by decide))

/-- The further name for a version is not the name of a type. -/
theorem name_ne_versionAlias : t.name.toList ≠ versionAlias.toList := by
  cases t <;> decide

/-- A type is found by its name. -/
theorem find?_name (t : WireType) :
    (WireType.all.find? fun t' => t'.name.toList = t.name.toList) = some t := by
  cases t <;> decide

/-- Brackets behind a name are no part of it. -/
theorem wireType?_bracket {before gap : List Char} (hbefore : AreBlank before)
    (hgap : AreBlank gap) (t : WireType) (rest : List Char) :
    wireType? (before ++ t.name.toList ++ gap ++ '[' :: rest) = some t := by
  obtain ⟨rest', hrest⟩ := exists_trimEnd_of_not_blank (c := '[') rfl (t.name.toList ++ gap) rest
  have htrim : trim (before ++ t.name.toList ++ gap ++ '[' :: rest) =
      t.name.toList ++ gap ++ '[' :: rest' := by
    rw [trim, List.append_assoc, List.append_assoc, trimStart_append hbefore,
      isTrimmed_name.trimStart_append, ← List.append_assoc, hrest]
  have hbracket : '[' ∈ t.name.toList ++ gap ++ '[' :: rest' :=
    List.mem_append_right _ List.mem_cons_self
  have halias : t.name.toList ++ gap ++ '[' :: rest' ≠ versionAlias.toList := fun h => by
    rw [h] at hbracket
    exact absurd hbracket (by decide)
  have hname : '[' ∉ t.name.toList ++ gap := by
    rw [List.mem_append, not_or]
    exact ⟨bracket_notMem_name.1, fun h => absurd (hgap '[' h) (by decide)⟩
  simp only [wireType?, htrim, if_neg halias, if_pos hbracket, takeWhile_ne_append hname,
    trimEnd_append hgap, isTrimmed_name.trimEnd_eq, find?_name]

/-- **Which types name a wire type.** -/
theorem wireType?_eq_some_iff : wireType? cs = some t ↔ Names cs t := by
  constructor
  · intro h
    obtain ⟨before, after, hbefore, hafter, hcs⟩ := exists_trim cs
    simp only [wireType?] at h
    split at h
    · next halias =>
      obtain rfl := Option.some.inj h
      rw [hcs, halias]
      exact .version hbefore hafter
    · split at h
      · next hbracket =>
        obtain ⟨front, rest, hname, hfront⟩ := List.eq_append_cons_of_mem hbracket
        obtain ⟨gap, hgap, hsplit⟩ := exists_trimEnd front
        rw [hname, takeWhile_ne_append hfront] at h
        have hbase : t.name.toList = trimEnd front := by simpa using List.find?_some h
        rw [← hbase] at hsplit
        have hshape : before ++ (t.name.toList ++ gap ++ '[' :: rest) ++ after =
            before ++ t.name.toList ++ gap ++ '[' :: (rest ++ after) := by simp
        rw [hcs, hname, hsplit, hshape]
        exact .bracket hbefore hgap
      · have hbase : t.name.toList = trim cs := by simpa using List.find?_some h
        rw [hcs, ← hbase]
        exact .single hbefore hafter
  · intro h
    cases h with
    | single hbefore hafter =>
        simp only [wireType?, trim_eq isTrimmed_name hbefore hafter, if_neg name_ne_versionAlias,
          if_neg bracket_notMem_name.1, find?_name]
    | version hbefore hafter =>
        simp only [wireType?, trim_eq isTrimmed_versionAlias hbefore hafter, if_pos]
    | bracket hbefore hgap => exact wireType?_bracket hbefore hgap _ _

/-! ### Brackets -/

/-- The text between the first opening and the first closing bracket **encloses** a number, if the
opening one comes first. -/
def Encloses (cs : List Char) (n : Nat) (behind : List Char) : Prop :=
  ∃ front inner, cs = front ++ '[' :: (inner ++ ']' :: behind) ∧
    '[' ∉ front ∧ ']' ∉ front ∧ ']' ∉ inner ∧ count? lengthBound (trim inner) = some n

/-- The number in the brackets is read. -/
theorem brackets_of_enclosed {front inner : List Char} (hopening : '[' ∉ front)
    (hclosing : ']' ∉ front) (hinner : ']' ∉ inner) (behind : List Char) :
    brackets (front ++ '[' :: (inner ++ ']' :: behind)) =
      match count? lengthBound (trim inner) with
      | some n => .length n
      | none => .malformed := by
  have hend : ']' ∉ front ++ '[' :: inner := by simp [hclosing, hinner]
  have hfirst := idxOf?_append hopening (inner ++ ']' :: behind)
  have hlast := idxOf?_append hend behind
  rw [List.append_assoc, List.cons_append, List.length_append, List.length_cons] at hlast
  have hlength : front.length + (inner.length + 1) - (front.length + 1) = inner.length := by omega
  have hdrop : (front ++ '[' :: (inner ++ ']' :: behind)).drop (front.length + 1) =
      inner ++ ']' :: behind := by
    rw [← List.singleton_append, ← List.append_assoc]
    exact List.drop_left' (by simp)
  simp only [brackets, hfirst, hlast, hlength, hdrop, List.take_left]
  cases inner with
  | nil => exact if_neg (by simp)
  | cons c inner =>
      refine (if_pos (by simp)).trans ?_
      cases count? lengthBound (trim (c :: inner)) <;> rfl

/-- A number is enclosed by the first opening bracket and the first closing one behind it. -/
theorem encloses_append_iff {front rest behind : List Char} {n : Nat} (hopening : '[' ∉ front) :
    Encloses (front ++ '[' :: rest) n behind ↔ ']' ∉ front ∧ ∃ inner,
      rest = inner ++ ']' :: behind ∧ ']' ∉ inner ∧ count? lengthBound (trim inner) = some n := by
  constructor
  · rintro ⟨front', inner, heq, hopening', hclosing, hinner, hcount⟩
    obtain ⟨rfl, rfl⟩ := eq_of_first_eq hopening hopening' heq
    exact ⟨hclosing, inner, rfl, hinner, hcount⟩
  · rintro ⟨hclosing, inner, rfl, hinner, hcount⟩
    exact ⟨front, inner, rfl, hopening, hclosing, hinner, hcount⟩

/-- **What the brackets of a type say.** -/
theorem brackets_cases (cs : List Char) :
    ('[' ∉ cs ∧ ']' ∉ cs ∧ brackets cs = .absent) ∨
    (∃ n behind, Encloses cs n behind ∧ brackets cs = .length n) ∨
    (('[' ∈ cs ∨ ']' ∈ cs) ∧ (∀ n behind, ¬ Encloses cs n behind) ∧ brackets cs = .malformed) := by
  by_cases hopen : '[' ∈ cs
  · obtain ⟨front, rest, rfl, hopening⟩ := List.eq_append_cons_of_mem hopen
    have hfirst := idxOf?_append hopening rest
    by_cases hclosing : ']' ∈ front
    · -- The first closing bracket stands before the first opening one.
      obtain ⟨start, mid, rfl, hstart⟩ := List.eq_append_cons_of_mem hclosing
      have hlast := idxOf?_append hstart (mid ++ '[' :: rest)
      refine .inr (.inr ⟨.inl hopen, fun n behind h => ?_, ?_⟩)
      · exact ((encloses_append_iff hopening).1 h).1 hclosing
      · rw [← List.cons_append, ← List.append_assoc] at hlast
        simp only [brackets, hfirst, hlast]
        rw [if_neg (by simp; omega)]
    · by_cases hclose : ']' ∈ rest
      · obtain ⟨inner, behind, rfl, hinner⟩ := List.eq_append_cons_of_mem hclose
        have hbrackets := brackets_of_enclosed hopening hclosing hinner behind
        cases hcount : count? lengthBound (trim inner) with
        | some n =>
            rw [hcount] at hbrackets
            exact .inr (.inl ⟨n, behind, ⟨front, inner, rfl, hopening, hclosing, hinner, hcount⟩,
              hbrackets⟩)
        | none =>
            rw [hcount] at hbrackets
            refine .inr (.inr ⟨.inl hopen, fun n behind' h => ?_, hbrackets⟩)
            obtain ⟨-, inner', heq, hinner', hcount'⟩ := (encloses_append_iff hopening).1 h
            obtain ⟨rfl, -⟩ := eq_of_first_eq hinner hinner' heq
            cases hcount.symm.trans hcount'
      · have hlast : (front ++ '[' :: rest).idxOf? ']' = none :=
          List.idxOf?_eq_none_iff.2 (by simp [hclosing, hclose])
        refine .inr (.inr ⟨.inl hopen, fun n behind h => ?_, ?_⟩)
        · obtain ⟨-, inner, rfl, -⟩ := (encloses_append_iff hopening).1 h
          exact hclose (List.mem_append_right _ List.mem_cons_self)
        · simp only [brackets, hfirst, hlast]
  · have hfirst : cs.idxOf? '[' = none := List.idxOf?_eq_none_iff.2 hopen
    by_cases hclose : ']' ∈ cs
    · refine .inr (.inr ⟨.inr hclose, ?_, ?_⟩)
      · rintro n behind ⟨front, inner, rfl, -⟩
        exact hopen (List.mem_append_right _ List.mem_cons_self)
      · obtain ⟨start, mid, rfl, hstart⟩ := List.eq_append_cons_of_mem hclose
        simp only [brackets, hfirst, idxOf?_append hstart]
    · have hlast : cs.idxOf? ']' = none := List.idxOf?_eq_none_iff.2 hclose
      exact .inl ⟨hopen, hclose, by simp only [brackets, hfirst, hlast]⟩

/-- Brackets are absent if there is no bracket of either kind. -/
theorem brackets_eq_absent_iff : brackets cs = .absent ↔ '[' ∉ cs ∧ ']' ∉ cs := by
  rcases brackets_cases cs with ⟨hopen, hclose, h⟩ | ⟨n, behind, ⟨front, inner, rfl, -⟩, h⟩ |
    ⟨hmem, -, h⟩
  · simp [h, hopen, hclose]
  · simp [h]
  · rw [h]
    refine ⟨fun h => (nomatch h), fun hnone => ?_⟩
    rcases hmem with hmem | hmem
    · exact absurd hmem hnone.1
    · exact absurd hmem hnone.2

/-- Brackets have a length if they enclose it. -/
theorem brackets_eq_length_iff {n : Nat} :
    brackets cs = .length n ↔ ∃ behind, Encloses cs n behind := by
  constructor
  · intro h
    rcases brackets_cases cs with ⟨-, -, habsent⟩ | ⟨n', behind, hencloses, hlength⟩ |
      ⟨-, -, hmalformed⟩
    · cases habsent.symm.trans h
    · obtain rfl := Brackets.length.inj (hlength.symm.trans h)
      exact ⟨behind, hencloses⟩
    · cases hmalformed.symm.trans h
  · rintro ⟨behind, front, inner, rfl, hopening, hclosing, hinner, hcount⟩
    rw [brackets_of_enclosed hopening hclosing hinner, hcount]

/-- The length in brackets and the one that is given apart set the length of an array together. -/
theorem arrayLength?_eq_some_iff {b : Brackets} {explicit n : Nat} :
    arrayLength? b explicit = some n ↔ (b = .absent ∧ Sets none explicit n) ∨
      ∃ m, b = .length m ∧ 0 < m ∧ Sets (some m) explicit n := by
  cases b with
  | absent =>
      rw [arrayLength?, Option.some.injEq]
      constructor
      · rintro rfl
        exact .inl ⟨rfl, .apart⟩
      · rintro (⟨-, hsets⟩ | ⟨m, habsent, -⟩)
        · cases hsets
          rfl
        · cases habsent
  | length m =>
      rw [arrayLength?]
      constructor
      · intro h
        split at h
        · next hagree =>
          obtain rfl := Option.some.inj h
          refine .inr ⟨m, rfl, Nat.pos_of_ne_zero hagree.1, ?_⟩
          rcases hagree.2 with rfl | rfl
          · exact .brackets
          · exact .both
        · cases h
      · rintro (⟨habsent, -⟩ | ⟨m', hlength, hpos, hsets⟩)
        · cases habsent
        · obtain rfl := Brackets.length.inj hlength
          cases hsets with
          | brackets => exact if_pos ⟨Nat.ne_of_gt hpos, .inl rfl⟩
          | both => exact if_pos ⟨Nat.ne_of_gt hpos, .inr rfl⟩
  | malformed =>
      refine ⟨fun h => (nomatch h), ?_⟩
      rintro (⟨h, -⟩ | ⟨m, h, -⟩) <;> cases h

/-! ### Spellings -/

/-- There are no brackets among blanks. -/
theorem notMem_of_areBlank {front : List Char} (h : AreBlank front) :
    '[' ∉ front ∧ ']' ∉ front :=
  ⟨fun hmem => absurd (h '[' hmem) (by decide), fun hmem => absurd (h ']' hmem) (by decide)⟩

/-- A name between blanks has no brackets. -/
theorem notMem_of_blanks {before name after : List Char} (hbefore : AreBlank before)
    (hname : '[' ∉ name ∧ ']' ∉ name) (hafter : AreBlank after) :
    '[' ∉ before ++ name ++ after ∧ ']' ∉ before ++ name ++ after := by
  simp [notMem_of_areBlank hbefore, notMem_of_areBlank hafter, hname]

/-- **A spelling names a type, and encloses the length of an array in brackets.** -/
theorem spells_iff {length? : Option Nat} {behind : List Char} :
    Spells cs t length? behind ↔ Names cs t ∧
      ((length? = none ∧ behind = [] ∧ '[' ∉ cs ∧ ']' ∉ cs) ∨
        ∃ n, length? = some n ∧ 0 < n ∧ Encloses cs n behind) := by
  constructor
  · intro h
    cases h with
    | single hbefore hafter =>
        exact ⟨.single hbefore hafter,
          .inl ⟨rfl, rfl, notMem_of_blanks hbefore bracket_notMem_name hafter⟩⟩
    | version hbefore hafter =>
        exact ⟨.version hbefore hafter,
          .inl ⟨rfl, rfl, notMem_of_blanks hbefore (by decide) hafter⟩⟩
    | @array before gap left number right behind t n hbefore hgap hleft hnumber hright hpos
        hbound =>
        have ⟨hopening, hclosing⟩ := notMem_of_blanks hbefore (bracket_notMem_name (t := t)) hgap
        refine ⟨.bracket hbefore hgap, .inr ⟨n, rfl, hpos, _, _, rfl, hopening, hclosing, ?_, ?_⟩⟩
        · simp only [List.mem_append, not_or]
          exact ⟨⟨(notMem_of_areBlank hleft).2, fun hmem => (hnumber.forall_mem _ hmem).2.2 rfl⟩,
            (notMem_of_areBlank hright).2⟩
        · rw [trim_eq hnumber.isTrimmed hleft hright]
          exact count?_eq_some_iff.2 ⟨hnumber, hbound⟩
  · rintro ⟨hnames, ⟨rfl, rfl, hopen, hclose⟩ | ⟨n, rfl, hpos, hencloses⟩⟩
    · cases hnames with
      | single hbefore hafter => exact .single hbefore hafter
      | version hbefore hafter => exact .version hbefore hafter
      | bracket hbefore hgap => exact absurd (List.mem_append_right _ List.mem_cons_self) hopen
    · have hopen : '[' ∈ cs := by
        obtain ⟨front, inner, rfl, -⟩ := hencloses
        exact List.mem_append_right _ List.mem_cons_self
      cases hnames with
      | single hbefore hafter =>
          exact absurd hopen (notMem_of_blanks hbefore bracket_notMem_name hafter).1
      | version hbefore hafter =>
          exact absurd hopen (notMem_of_blanks hbefore (by decide) hafter).1
      | bracket hbefore hgap =>
          have hfront := notMem_of_blanks hbefore (bracket_notMem_name (t := t)) hgap
          obtain ⟨-, inner, rfl, -, hcount⟩ := (encloses_append_iff hfront.1).1 hencloses
          obtain ⟨hnumber, hbound⟩ := count?_eq_some_iff.1 hcount
          obtain ⟨left, right, hleft, hright, hinner⟩ := exists_trim inner
          rw [hinner]
          exact .array hbefore hgap hleft hnumber hright hpos hbound

/-- **Which types are resolved.** -/
theorem resolve_eq_ok_iff {typeName : String} {explicit n : Nat} :
    resolve typeName explicit = .ok (t, n) ↔
      ∃ length? behind, Spells typeName.toList t length? behind ∧ Sets length? explicit n := by
  have hlength : arrayLength? (brackets typeName.toList) explicit = some n ↔
      ∃ length? behind, ((length? = none ∧ behind = [] ∧ '[' ∉ typeName.toList ∧
        ']' ∉ typeName.toList) ∨ ∃ m, length? = some m ∧ 0 < m ∧
          Encloses typeName.toList m behind) ∧ Sets length? explicit n := by
    rw [arrayLength?_eq_some_iff, brackets_eq_absent_iff]
    simp only [brackets_eq_length_iff]
    constructor
    · rintro (⟨⟨hopen, hclose⟩, hsets⟩ | ⟨m, ⟨behind, hencloses⟩, hpos, hsets⟩)
      · exact ⟨none, [], .inl ⟨rfl, rfl, hopen, hclose⟩, hsets⟩
      · exact ⟨some m, behind, .inr ⟨m, rfl, hpos, hencloses⟩, hsets⟩
    · rintro ⟨length?, behind, ⟨rfl, rfl, hopen, hclose⟩ | ⟨m, rfl, hpos, hencloses⟩, hsets⟩
      · exact .inl ⟨⟨hopen, hclose⟩, hsets⟩
      · exact .inr ⟨m, ⟨behind, hencloses⟩, hpos, hsets⟩
  have hresolve : resolve typeName explicit = .ok (t, n) ↔
      wireType? typeName.toList = some t ∧
        arrayLength? (brackets typeName.toList) explicit = some n := by
    rw [resolve]
    cases wireType? typeName.toList with
    | none => simp
    | some t' => cases arrayLength? (brackets typeName.toList) explicit <;> simp
  simp only [hresolve, wireType?_eq_some_iff, hlength, spells_iff, and_assoc, exists_and_left]

/-- A type that names no wire type is unknown. -/
theorem resolve_eq_unknownType_iff {typeName : String} {explicit : Nat} :
    resolve typeName explicit = .error .unknownType ↔ ∀ t, ¬ Names typeName.toList t := by
  rw [resolve]
  cases hname : wireType? typeName.toList with
  | none =>
      refine ⟨fun _ t hnames => ?_, fun _ => rfl⟩
      cases hname.symm.trans (wireType?_eq_some_iff.2 hnames)
  | some t =>
      refine ⟨fun h => ?_, fun hnone => absurd (wireType?_eq_some_iff.1 hname) (hnone t)⟩
      cases hlength : arrayLength? (brackets typeName.toList) explicit <;>
        simp [hlength] at h

/-- The length of a type is invalid if the type names a wire type but is not resolved. -/
theorem resolve_eq_invalidLength_iff {typeName : String} {explicit : Nat} :
    resolve typeName explicit = .error .invalidLength ↔ (∃ t, Names typeName.toList t) ∧
      ∀ t length? behind n, Spells typeName.toList t length? behind →
        ¬ Sets length? explicit n := by
  cases hresolve : resolve typeName explicit with
  | ok p =>
      obtain ⟨length?, behind, hspells, hsets⟩ := resolve_eq_ok_iff.1 hresolve
      exact ⟨fun h => (nomatch h), fun h => absurd hsets (h.2 _ _ _ _ hspells)⟩
  | error e =>
      have hnone : ∀ t length? behind n, Spells typeName.toList t length? behind →
          ¬ Sets length? explicit n := by
        intro t length? behind n hspells hsets
        cases hresolve.symm.trans (resolve_eq_ok_iff.2 ⟨length?, behind, hspells, hsets⟩)
      cases e with
      | unknownType =>
          refine ⟨fun h => (nomatch h), fun ⟨⟨t, hnames⟩, _⟩ => ?_⟩
          exact absurd hnames (resolve_eq_unknownType_iff.1 hresolve t)
      | invalidLength =>
          refine ⟨fun _ => ⟨?_, hnone⟩, fun _ => rfl⟩
          by_contra hnames
          have hunknown : resolve typeName explicit = .error .unknownType :=
            resolve_eq_unknownType_iff.2 (not_exists.1 hnames)
          cases hresolve.symm.trans hunknown

/-- What stands behind the brackets of a type is what follows its first closing bracket. -/
theorem Spells.behind_eq {length? : Option Nat} {behind : List Char}
    (h : Spells cs t length? behind) : behind = (cs.dropWhile (· ≠ ']')).tail := by
  obtain ⟨-, ⟨-, rfl, -, hclose⟩ | ⟨n, -, -, front, inner, rfl, -, hclosing, hinner, -⟩⟩ :=
    spells_iff.1 h
  · rw [List.dropWhile_eq_nil_iff.2 (forall_ne_of_notMem hclose), List.tail_nil]
  · have hend : ']' ∉ front ++ '[' :: inner := by simp [hclosing, hinner]
    rw [← List.cons_append, ← List.append_assoc, dropWhile_ne_append hend, List.tail_cons]

end TypeName

namespace Layout

open Mavlink.TypeName

/-- **Which fields are accepted, and why the others are not.** A field is accepted if its type
spells a wire type, whatever stands behind the brackets, and sets its length. -/
theorem resolveField_eq_iff (message : String) (index : Nat) (d : FieldDeclaration) :
    (∀ f, resolveField message index d = .ok f ↔
      ∃ wireType length? behind arrayLength, Spells d.typeName.toList wireType length? behind ∧
        Sets length? d.arrayLength arrayLength ∧
        f = { index, wireType, name := d.name, enumName? := d.enumName?, arrayLength,
              isExtension := d.isExtension }) ∧
    ∀ e, resolveField message index d = .error e ↔
      ((∀ t, ¬ Names d.typeName.toList t) ∧ e = .unknownWireType message d.name d.typeName) ∨
      ((∃ t, Names d.typeName.toList t) ∧
        (∀ t length? behind n, Spells d.typeName.toList t length? behind →
          ¬ Sets length? d.arrayLength n) ∧
        e = .invalidArrayLength message d.name d.typeName) := by
  have hok : ∀ f, resolveField message index d = .ok f ↔
      ∃ wireType arrayLength, resolve d.typeName d.arrayLength = .ok (wireType, arrayLength) ∧
        f = { index, wireType, name := d.name, enumName? := d.enumName?, arrayLength,
              isExtension := d.isExtension } := by
    intro f
    rw [resolveField]
    rcases resolve d.typeName d.arrayLength with (_ | _) | ⟨t, n⟩ <;> simp [eq_comm]
  have herror : ∀ e, resolveField message index d = .error e ↔
      (resolve d.typeName d.arrayLength = .error .unknownType ∧
        e = .unknownWireType message d.name d.typeName) ∨
      (resolve d.typeName d.arrayLength = .error .invalidLength ∧
        e = .invalidArrayLength message d.name d.typeName) := by
    intro e
    rw [resolveField]
    rcases resolve d.typeName d.arrayLength with (_ | _) | ⟨t, n⟩ <;> simp [eq_comm]
  refine ⟨fun f => ?_, fun e => ?_⟩
  · rw [hok]
    constructor
    · rintro ⟨t, n, hresolve, rfl⟩
      obtain ⟨length?, behind, hspells, hsets⟩ := resolve_eq_ok_iff.1 hresolve
      exact ⟨t, length?, behind, n, hspells, hsets, rfl⟩
    · rintro ⟨t, length?, behind, n, hspells, hsets, rfl⟩
      exact ⟨t, n, resolve_eq_ok_iff.2 ⟨length?, behind, hspells, hsets⟩, rfl⟩
  · rw [herror, resolve_eq_unknownType_iff, resolve_eq_invalidLength_iff, and_assoc]

/-- A field whose type has two pairs of brackets. -/
def matrix : FieldDeclaration :=
  { typeName := "uint8_t[2][3]", name := "matrix", arrayLength := 0, isExtension := false,
    enumName? := none }

/-- The second pair of brackets is ignored: in every spelling of the type, more than blanks stands
behind the first pair. -/
theorem matrix_is_accepted :
    resolveField "M" 0 matrix = .ok
      { index := 0, wireType := .uint8, name := "matrix", enumName? := none, arrayLength := 2,
        isExtension := false } ∧
    ∀ t length? behind, Spells matrix.typeName.toList t length? behind → ¬ AreBlank behind := by
  refine ⟨by decide, fun t length? behind hspells hblank => ?_⟩
  have hbehind : behind = ['[', '3', ']'] := hspells.behind_eq
  exact absurd (hblank '[' (hbehind ▸ List.mem_cons_self)) (by decide)

end Layout

end Mavlink
