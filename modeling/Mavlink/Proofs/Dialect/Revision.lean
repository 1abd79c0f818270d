import Mavlink.Payload.Codec
import Mavlink.Proofs.Dialect.Compilation

/-!
# Adding an extension field

A later revision of a message has one more extension field, declared behind all others. As the
extension fields are ordered by width, too, the new field stands in the payload behind those with
elements at least as wide as its own, and before the narrower ones. So these are moved, by the size
of the new field, while all other fields stay where they are, and a payload of the earlier revision
is read under the later one with the same values for all fields that were not moved.

A later revision is compatible with the earlier one exactly as far as that: there are no moved
fields if no extension field is narrower than the new one.

## Main results

* `Layout.exists_wireOrder_concat`: where a field that is declared last stands.
* `Layout.exists_extendedBy`: the layout of the later revision.
* `Layout.get?_read_congr`: slots behind a common front do not matter to the fields in it.
* `Layout.extension_moves_narrower`: what an added extension field moves, and what it leaves.
-/

namespace Mavlink

/-! ### Entries behind others -/

namespace NameMap

variable {α : Type}

/-- A name that is not in the front is looked up in the rest. -/
theorem lookup_append_of_notMem {xs ys : List (String × α)} {key : String}
    (h : key ∉ xs.map Prod.fst) : lookup key (xs ++ ys) = lookup key ys := by
  induction xs with
  | nil => rfl
  | cons e rest ih =>
      obtain ⟨k, v⟩ := e
      rw [List.map_cons, List.mem_cons, not_or] at h
      obtain ⟨hne, hrest⟩ := h
      rw [List.cons_append, lookup, if_neg hne, ih hrest]

/-- Later entries with other names do not change a look-up. -/
theorem get?_ofList_append {xs ys : List (String × α)} {key : String}
    (h : key ∉ ys.map Prod.fst) : (ofList (xs ++ ys)).get? key = (ofList xs).get? key := by
  have hall := get?_ofList_reverse (ys.reverse ++ xs.reverse) key
  have hfront := get?_ofList_reverse xs.reverse key
  rw [List.reverse_append, List.reverse_reverse, List.reverse_reverse] at hall
  rw [List.reverse_reverse] at hfront
  rw [hall, hfront, lookup_append_of_notMem]
  rwa [List.map_reverse, List.mem_reverse]

end NameMap

/-- The slot some bytes further on. -/
def Slot.movedBy (n : Nat) (s : Slot) : Slot :=
  { s with offset := s.offset + n }

/-- The later revision of a message: one more field is declared behind the others. -/
def MessageDeclaration.revisedBy (d : MessageDeclaration) (e : FieldDeclaration) :
    MessageDeclaration :=
  { d with fields := d.fields ++ [e] }

namespace Layout

/-! ### A field that is declared last -/

/-- Declared fields resolve if those before the last one do, and the last one with the index behind
them. -/
theorem resolveFields_concat_eq_ok_iff {message : String} {index : Nat}
    {declared : List FieldDeclaration} {e : FieldDeclaration} {fields : List Field} :
    resolveFields message index (declared ++ [e]) = .ok fields ↔
      ∃ fs f, resolveFields message index declared = .ok fs ∧
        resolveField message (index + declared.length) e = .ok f ∧ fields = fs ++ [f] := by
  induction declared generalizing index fields with
  | nil =>
      rw [List.nil_append, resolveFields_cons_eq_ok_iff]
      constructor
      · rintro ⟨f, fs, hf, hfs, rfl⟩
        obtain rfl := Except.ok.inj hfs
        exact ⟨[], f, rfl, hf, rfl⟩
      · rintro ⟨fs, f, hfs, hf, rfl⟩
        obtain rfl := Except.ok.inj hfs
        exact ⟨f, [], hf, rfl, rfl⟩
  | cons d rest ih =>
      have hindex : index + (d :: rest).length = index + 1 + rest.length := by
        rw [List.length_cons]
        omega
      rw [List.cons_append, resolveFields_cons_eq_ok_iff, hindex]
      constructor
      · rintro ⟨g, gs, hg, hgs, rfl⟩
        obtain ⟨fs, f, hfs, hf, rfl⟩ := ih.1 hgs
        exact ⟨g :: fs, f, resolveFields_cons_eq_ok_iff.2 ⟨g, fs, hg, hfs, rfl⟩, hf, rfl⟩
      · rintro ⟨fs, f, hfs, hf, rfl⟩
        obtain ⟨g, gs, hg, hgs, rfl⟩ := resolveFields_cons_eq_ok_iff.1 hfs
        exact ⟨g, gs ++ [f], hg, ih.2 ⟨gs, f, hgs, hf, rfl⟩, rfl⟩

/-- Every type has one of the widths. -/
theorem size_mem_widths (t : WireType) : t.size ∈ widths := by
  cases t <;> decide

/-- The fields of some widths, width by width. -/
def ofWidths (ws : List Nat) (fields : List Field) : List Field :=
  ws.flatMap fun width => fields.filter fun f => f.wireType.size = width

/-- A field of given widths has one of them. -/
theorem mem_of_mem_ofWidths {ws : List Nat} {fields : List Field} {f : Field}
    (h : f ∈ ofWidths ws fields) : f.wireType.size ∈ ws := by
  obtain ⟨width, hwidth, hf⟩ := List.mem_flatMap.1 h
  have hsize : f.wireType.size = width := by simpa using (List.mem_filter.1 hf).2
  rwa [hsize]

/-- Fields of other widths do not matter. -/
theorem ofWidths_concat {ws : List Nat} {f : Field} (h : f.wireType.size ∉ ws)
    (fields : List Field) : ofWidths ws (fields ++ [f]) = ofWidths ws fields := by
  refine List.flatMap_congr fun width hwidth => ?_
  have hne : f.wireType.size ≠ width := by
    rintro rfl
    exact h hwidth
  rw [List.filter_append, List.filter_singleton, decide_eq_false hne]
  exact List.append_nil _

/-- **Where a field that is declared last stands**: behind the fields that are at least as wide, and
before the narrower ones. -/
theorem exists_wireOrder_concat (fields : List Field) (f : Field) :
    ∃ wide narrow, wireOrder fields = wide ++ narrow ∧
      wireOrder (fields ++ [f]) = wide ++ f :: narrow ∧
      (∀ g ∈ wide, f.wireType.size ≤ g.wireType.size) ∧
      ∀ g ∈ narrow, g.wireType.size < f.wireType.size := by
  obtain ⟨wider, narrower, hwidths⟩ := List.append_of_mem (size_mem_widths f.wireType)
  have hdescending : widths.Pairwise fun v w => w < v := by decide
  rw [hwidths, List.pairwise_append, List.pairwise_cons] at hdescending
  obtain ⟨-, ⟨hnarrower, -⟩, hwider⟩ := hdescending
  have hwider : ∀ width ∈ wider, f.wireType.size < width := fun width hwidth =>
    hwider width hwidth _ List.mem_cons_self
  -- The order has three parts: the wider fields, those of the new field's width, the narrower ones.
  have hparts : ∀ xs, wireOrder xs = ofWidths wider xs ++
      (xs.filter (fun g => g.wireType.size = f.wireType.size) ++ ofWidths narrower xs) := by
    intro xs
    rw [wireOrder, hwidths, List.flatMap_append, List.flatMap_cons]
    rfl
  have hsame : (fields ++ [f]).filter (fun g => g.wireType.size = f.wireType.size) =
      fields.filter (fun g => g.wireType.size = f.wireType.size) ++ [f] := by
    rw [List.filter_append, List.filter_singleton, decide_eq_true rfl]
    rfl
  refine ⟨ofWidths wider fields ++ fields.filter fun g => g.wireType.size = f.wireType.size,
    ofWidths narrower fields, ?_, ?_, ?_, ?_⟩
  · rw [hparts, List.append_assoc]
  · rw [hparts, hsame, ofWidths_concat fun h => Nat.lt_irrefl _ (hwider _ h),
      ofWidths_concat fun h => Nat.lt_irrefl _ (hnarrower _ h)]
    simp only [List.append_assoc, List.singleton_append]
  · intro g hg
    rcases List.mem_append.1 hg with hg | hg
    · exact Nat.le_of_lt (hwider _ (mem_of_mem_ofWidths hg))
    · have hsize : g.wireType.size = f.wireType.size := by simpa using (List.mem_filter.1 hg).2
      exact Nat.le_of_eq hsize.symm
  · intro g hg
    exact hnarrower _ (mem_of_mem_ofWidths hg)

/-! ### The layout of the later revision -/

/-- Fields that fit further on fit. -/
theorem FitsFrom.of_add {offset n : Nat} {fields : List Field}
    (h : FitsFrom (offset + n) fields) : FitsFrom offset fields := by
  rw [FitsFrom] at h ⊢
  omega

/-- Fields that are placed further on are moved. -/
theorem place_add {offset n : Nat} {fields : List Field} (hfits : FitsFrom (offset + n) fields) :
    place (offset + n) fields = (place offset fields).map (Slot.movedBy n) := by
  induction fields generalizing offset with
  | nil => rfl
  | cons f rest ih =>
      have hoffset : offset + n + (Shape.ofField f).exactSize =
          offset + (Shape.ofField f).exactSize + n := by
        omega
      have htail := hfits.tail
      rw [hoffset] at htail
      rw [place_cons_of_fits hfits, place_cons_of_fits hfits.of_add, List.map_cons, hoffset,
        ih htail]
      rfl

/-- A layout is **extended** to another one by a slot for an extension field: the slots before the
new one are kept, the extension fields behind it are narrower and moved by its size. -/
structure ExtendedBy (l l' : Layout) (new : Slot) (kept moved : List Slot) : Prop where
  slots_eq : l.slots = kept ++ moved
  extended_slots_eq : l'.slots = kept ++ new :: moved.map (Slot.movedBy new.size)
  isExtension : new.field.isExtension = true
  le_of_kept : ∀ s ∈ kept, s.field.isExtension = true →
    new.field.wireType.size ≤ s.field.wireType.size
  lt_of_moved : ∀ s ∈ moved, s.field.isExtension = true ∧
    s.field.wireType.size < new.field.wireType.size
  minSize_eq : l'.minSize = l.minSize
  crcExtra_eq : l'.crcExtra = l.crcExtra

/-- A further extension field is no base field. -/
theorem baseOrder_concat {f : Field} (h : f.isExtension = true) (fields : List Field) :
    baseOrder (fields ++ [f]) = baseOrder fields := by
  rw [baseOrder, List.filter_append, List.filter_singleton, h]
  exact congrArg wireOrder (List.append_nil _)

/-- A further extension field is declared behind the others. -/
theorem extensionOrder_concat {f : Field} (h : f.isExtension = true) (fields : List Field) :
    extensionOrder (fields ++ [f]) = wireOrder ((fields.filter fun g => g.isExtension) ++ [f]) := by
  rw [extensionOrder, List.filter_append, List.filter_singleton, h]
  rfl

section Extended

variable {d : MessageDeclaration} {e : FieldDeclaration} {l l' : Layout}

/-- **The layout of the later revision.** -/
theorem exists_extendedBy (he : e.isExtension = true) (h : compile d = .ok l)
    (h' : compile (d.revisedBy e) = .ok l') (hfits : l'.Fits) :
    ∃ new kept moved, l.ExtendedBy l' new kept moved ∧
      new.field.index = d.fields.length ∧ new.field.Resolves e := by
  obtain ⟨fields, hfields, -, -, rfl⟩ := compile_eq_ok_iff.1 h
  obtain ⟨fields', hfields', -, -, rfl⟩ := compile_eq_ok_iff.1 h'
  obtain ⟨fs, f, hfs, hf, rfl⟩ := resolveFields_concat_eq_ok_iff.1 hfields'
  obtain rfl := Except.ok.inj (hfields.symm.trans hfs)
  obtain ⟨hindex, hresolves⟩ := resolves_of_resolveField hf
  have hext : f.isExtension = true := hresolves.isExtension_eq.trans he
  obtain ⟨wide, narrow, hbefore, hafter, hwide, hnarrow⟩ :=
    exists_wireOrder_concat (fields.filter fun g => g.isExtension) f
  have horder : extensionOrder fields = wide ++ narrow := hbefore
  have horder' : extensionOrder (fields ++ [f]) = wide ++ f :: narrow :=
    (extensionOrder_concat hext fields).trans hafter
  have hbase := baseOrder_concat hext fields
  have hmem : ∀ g ∈ narrow, g.isExtension = true := by
    intro g hg
    have hgmem : g ∈ extensionOrder fields := by
      rw [horder]
      exact List.mem_append_right wide hg
    exact isExtension_of_mem_extensionOrder hgmem
  have hall : FitsFrom 0 (baseOrder fields ++ wide ++ f :: narrow) := by
    have hpayload := fits_assemble_iff.1 hfits
    rwa [payloadOrder, hbase, horder', ← List.append_assoc] at hpayload
  have hbehind := hall.right
  rw [Nat.zero_add] at hbehind
  have hsize : (slotAt (exactSize (baseOrder fields ++ wide)) f).size =
      (Shape.ofField f).exactSize := hbehind.size_eq
  have hearlier : FitsFrom 0 (baseOrder fields ++ wide ++ narrow) := by
    have htail := hbehind.tail.of_add
    rw [FitsFrom] at htail ⊢
    rw [exactSize_append]
    omega
  refine ⟨slotAt (exactSize (baseOrder fields ++ wide)) f, place 0 (baseOrder fields ++ wide),
    place (exactSize (baseOrder fields ++ wide)) narrow, ?_, ?_, hresolves⟩
  · exact {
      slots_eq := by
        rw [assemble, payloadOrder, horder, ← List.append_assoc, place_append_of_fits hearlier,
          Nat.zero_add]
      extended_slots_eq := by
        rw [assemble, payloadOrder, horder', hbase, ← List.append_assoc, place_append_of_fits hall,
          Nat.zero_add, place_cons_of_fits hbehind, place_add hbehind.tail, hsize]
      isExtension := hext
      le_of_kept := by
        intro s hs hsext
        rcases List.mem_append.1 (field_mem_of_mem_place hs) with hs | hs
        · rw [isExtension_of_mem_baseOrder hs] at hsext
          contradiction
        · exact hwide s.field hs
      lt_of_moved := by
        intro s hs
        have hs := field_mem_of_mem_place hs
        exact ⟨hmem s.field hs, hnarrow s.field hs⟩
      minSize_eq := congrArg totalSize hbase
      crcExtra_eq := congrArg (extraByte d.name) hbase }
  · exact hindex.trans (Nat.zero_add _)

end Extended

/-! ### Reading under the later revision -/

/-- Selecting from the front goes on behind a front part with some of what is there. -/
theorem exists_takeWhile_append {α : Type} (p : α → Bool) (a b : List α) :
    ∃ more, more.Sublist b ∧ (a ++ b).takeWhile p = a.takeWhile p ++ more := by
  rw [List.takeWhile_append]
  split
  · next hall =>
    have ha : a.takeWhile p = a :=
      (List.takeWhile_prefix p).eq_of_length hall
    exact ⟨b.takeWhile p, List.takeWhile_sublist p, by rw [ha]⟩
  · exact ⟨[], List.nil_sublist b, (List.append_nil _).symm⟩

/-- A value that is read comes from the slots in front, if no slot behind them has its name. -/
theorem get?_read_append {l : Layout} {front rest : List Slot} (h : l.slots = front ++ rest)
    {name : String} (hrest : ∀ s ∈ rest, s.name ≠ name) (payload : Bytes) :
    (l.read payload).get? name =
      (NameMap.ofList ((front.takeWhile fun s => s.stop ≤ payload.length).map fun s =>
        (s.name, s.shape.read (Bytes.slice s.offset s.size payload)))).get? name := by
  obtain ⟨more, hsub, hmore⟩ :=
    exists_takeWhile_append (fun s : Slot => decide (s.stop ≤ payload.length)) front rest
  rw [read, slotsWithin, h, hmore, List.map_append, NameMap.get?_ofList_append]
  intro hname
  rw [List.map_map] at hname
  obtain ⟨s, hs, hsname⟩ := List.mem_map.1 hname
  exact hrest s (hsub.mem hs) hsname

/-- **What an added extension field moves, and what it leaves.** An extension field is declared
behind all others, both revisions compile, and the later one fits. Then all slots stay as they are,
but for those of extension fields with narrower elements than the new one: these are moved by its
size. A payload that can be read under the earlier revision can be read under the later one, with
the same value, or none, for every name that is neither the new field's nor a moved one's. -/
theorem extension_moves_narrower (d : MessageDeclaration) (e : FieldDeclaration) (l l' : Layout)
    (he : e.isExtension = true) (h : compile d = .ok l) (h' : compile (d.revisedBy e) = .ok l')
    (hfits : l'.Fits) :
    ∃ new kept moved, l.ExtendedBy l' new kept moved ∧
      new.field.index = d.fields.length ∧ new.field.Resolves e ∧
      ∀ (r r' : Registry) (id : UInt32) (payload : Bytes) (got : Fields),
        r.message? id = some l → r'.message? id = some l' → r.decodePayload id payload = .ok got →
        ∃ got', r'.decodePayload id payload = .ok got' ∧
          ∀ name, name ≠ e.name → (∀ s ∈ moved, s.name ≠ name) →
            got'.get? name = got.get? name := by
  obtain ⟨new, kept, moved, hext, hindex, hresolves⟩ := exists_extendedBy he h h' hfits
  refine ⟨new, kept, moved, hext, hindex, hresolves, ?_⟩
  intro r r' id payload got hm hm' hdecode
  obtain ⟨hlen, rfl⟩ := (Registry.decodePayload_eq_ok_iff hm).1 hdecode
  refine ⟨l'.read payload,
    (Registry.decodePayload_eq_ok_iff hm').2 ⟨hext.minSize_eq.trans_le hlen, rfl⟩, ?_⟩
  intro name hne hmoved
  have hbehind : ∀ s ∈ new :: moved.map (Slot.movedBy new.size), s.name ≠ name := by
    intro s hs
    rcases List.mem_cons.1 hs with rfl | hs
    · rw [Slot.name, hresolves.name_eq]
      exact hne.symm
    · obtain ⟨t, ht, rfl⟩ := List.mem_map.1 hs
      exact hmoved t ht
  rw [get?_read_append hext.slots_eq hmoved, get?_read_append hext.extended_slots_eq hbehind]

end Layout

namespace Sample

/-- A message with one base field and one extension field. -/
def pair : MessageDeclaration where
  id := 1
  name := "PAIR"
  fields := [⟨"uint8_t", "a", 0, false, none⟩, ⟨"uint8_t", "b", 0, true, none⟩]

/-- The value of a field that is read from a payload of a declared message. -/
def valueUnder (d : MessageDeclaration) (payload : Bytes) (name : String) : Option Value :=
  match Layout.compile d with
  | .error _ => none
  | .ok l =>
    match Registry.decodePayload ⟨d.name, [l], []⟩ d.id payload with
    | .error _ => none
    | .ok got => got.get? name

end Sample

namespace Layout

/-- A further field of one byte moves nothing. -/
theorem extension_moves_narrower_pair :
    ∃ l l' got got', compile Sample.pair = .ok l ∧
      compile (Sample.pair.revisedBy ⟨"uint8_t", "c", 0, true, none⟩) = .ok l' ∧
      (∀ s ∈ l.slots, s ∈ l'.slots) ∧
      Registry.decodePayload ⟨"", [l], []⟩ 1 [1, 2, 3] = .ok got ∧
      Registry.decodePayload ⟨"", [l'], []⟩ 1 [1, 2, 3] = .ok got' ∧
      got'.get? "b" = got.get? "b" := by
  obtain ⟨l, h, hm, got, hdecode⟩ : ∃ l, compile Sample.pair = .ok l ∧
      Registry.message? ⟨"", [l], []⟩ 1 = some l ∧
      ∃ got, Registry.decodePayload ⟨"", [l], []⟩ 1 [1, 2, 3] = .ok got := ⟨_, rfl, rfl, _, rfl⟩
  obtain ⟨l', h', hm', hfits⟩ : ∃ l',
      compile (Sample.pair.revisedBy ⟨"uint8_t", "c", 0, true, none⟩) = .ok l' ∧
      Registry.message? ⟨"", [l'], []⟩ 1 = some l' ∧ l'.Fits := ⟨_, rfl, rfl, by decide⟩
  obtain ⟨new, kept, moved, hext, -, hresolves, hread⟩ :=
    extension_moves_narrower Sample.pair ⟨"uint8_t", "c", 0, true, none⟩ l l' rfl h h' hfits
  have hnew : new.field.wireType = .uint8 :=
    (Prod.mk.inj (Except.ok.inj hresolves.type_eq)).1.symm
  have hnone : ∀ s, s ∉ moved := by
    intro s hs
    have hlt := (hext.lt_of_moved s hs).2
    have hpos := s.field.wireType.size_pos
    rw [hnew, WireType.size] at hlt
    omega
  obtain ⟨got', hdecode', hagree⟩ := hread _ _ 1 [1, 2, 3] got hm hm' hdecode
  refine ⟨l, l', got, got', h, h', ?_, hdecode, hdecode', ?_⟩
  · intro s hs
    rw [hext.slots_eq, List.mem_append] at hs
    rw [hext.extended_slots_eq]
    exact List.mem_append_left _ (hs.resolve_right (hnone s))
  · exact hagree "b" (by decide) fun s hs => absurd hs (hnone s)

/-- A further field of two bytes moves the field of one byte, which then has another value. So does
a further field with the name of an earlier one. -/
theorem extension_field_moved :
    (compile Sample.pair).map (fun l => (l.slot? "b").map Slot.offset) = .ok (some 1) ∧
      (compile (Sample.pair.revisedBy ⟨"uint16_t", "c", 0, true, none⟩)).map
        (fun l => (l.slot? "b").map Slot.offset) = .ok (some 3) ∧
      Sample.valueUnder Sample.pair [1, 2, 3, 4] "b" = some (.scalar (.uint 2)) ∧
      Sample.valueUnder (Sample.pair.revisedBy ⟨"uint16_t", "c", 0, true, none⟩) [1, 2, 3, 4] "b" =
        some (.scalar (.uint 4)) ∧
      Sample.valueUnder Sample.pair [1, 2, 3, 4] "a" = some (.scalar (.uint 1)) ∧
      Sample.valueUnder (Sample.pair.revisedBy ⟨"uint8_t", "a", 0, true, none⟩) [1, 2, 3, 4] "a" =
        some (.scalar (.uint 3)) := by
  decide +kernel

end Layout

end Mavlink
