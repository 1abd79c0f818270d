/-!
# Tables indexed by a byte

Sequence numbers and system ids are bytes. A table with one slot for each byte finds its entries
directly and lists them in ascending order.

## Main results

* `get_set`, `get_filterMap`: what each operation does to every slot.
* `ext_get`: a table is determined by its slots.
* `entries_eq`: the entries are what the slots hold, byte by byte.
-/

namespace Mavlink

/-- A table with one slot for each byte; a slot may be free. -/
structure Slots (α : Type) where
  slots : Vector (Option α) 256
  deriving DecidableEq

namespace Slots

variable {α : Type}

/-- The table of free slots. -/
def empty : Slots α := ⟨Vector.replicate 256 none⟩

instance : EmptyCollection (Slots α) := ⟨empty⟩

instance : Inhabited (Slots α) := ⟨empty⟩

/-- What the slot of a byte holds. -/
def get (t : Slots α) (i : UInt8) : Option α :=
  have : i.toNat < 256 := i.toNat_lt
  t.slots[i.toNat]

/-- The table with the slot of a byte replaced. -/
def set (t : Slots α) (i : UInt8) (x : Option α) : Slots α :=
  ⟨t.slots.set i.toNat x i.toNat_lt⟩

/-- The table with every entry passed through `f`, which may free its slot. -/
def filterMap {β : Type} (t : Slots α) (f : α → Option β) : Slots β :=
  ⟨t.slots.map fun x => x.bind f⟩

/-- The entries in ascending order of their bytes. -/
def entries (t : Slots α) : List α :=
  t.slots.toList.filterMap id

/-- All bytes in ascending order. -/
def indices : List UInt8 :=
  (List.range 256).map UInt8.ofNat

/-- The number of occupied slots. -/
def size (t : Slots α) : Nat :=
  t.entries.length

/-- Nothing is found in empty slots. -/
@[simp] theorem get_empty (i : UInt8) : (∅ : Slots α).get i = none := by
  simp [EmptyCollection.emptyCollection, empty, get]

/-- Replacing a slot changes what that slot holds only. -/
theorem get_set (t : Slots α) (i : UInt8) (x : Option α) (j : UInt8) :
    (t.set i x).get j = if i = j then x else t.get j := by
  simp only [get, set, Vector.getElem_set, UInt8.toNat_inj]

/-- Each slot is passed through the function on its own. -/
theorem get_filterMap {β : Type} (t : Slots α) (f : α → Option β) (i : UInt8) :
    (t.filterMap f).get i = (t.get i).bind f := by
  simp [get, filterMap]

/-- A table is determined by its slots. -/
theorem ext_get {t₁ t₂ : Slots α} (h : ∀ i, t₁.get i = t₂.get i) : t₁ = t₂ := by
  obtain ⟨v₁⟩ := t₁
  obtain ⟨v₂⟩ := t₂
  refine congrArg _ (Vector.ext fun n hn => ?_)
  have := h (UInt8.ofNat n)
  simpa [get, Nat.mod_eq_of_lt hn] using this

/-- Setting a slot to what it holds changes nothing. -/
theorem set_eq_self {t : Slots α} {i : UInt8} {x : Option α} (h : t.get i = x) : t.set i x = t := by
  refine ext_get fun j => ?_
  rw [get_set]
  split
  · next heq => rw [← heq, h]
  · rfl

/-- Every number of a slot is among the indices. -/
theorem mem_indices (i : UInt8) : i ∈ indices :=
  List.mem_map.2 ⟨i.toNat, List.mem_range.2 i.toNat_lt, UInt8.ofNat_toNat⟩

/-- No index is listed twice. -/
theorem nodup_indices : indices.Nodup := by
  refine List.pairwise_map.2 (List.nodup_range.imp_of_mem ?_)
  intro m n hm hn hne heq
  have hmod := congrArg UInt8.toNat heq
  rw [UInt8.toNat_ofNat', UInt8.toNat_ofNat', Nat.mod_eq_of_lt (List.mem_range.1 hm),
    Nat.mod_eq_of_lt (List.mem_range.1 hn)] at hmod
  exact hne hmod

/-- The entries are what the slots hold, byte by byte. -/
theorem entries_eq (t : Slots α) : t.entries = indices.filterMap t.get := by
  have hslots : t.slots.toList = indices.map t.get := by
    refine List.ext_getElem (by simp [indices]) fun n hn _ => ?_
    have hlt : n < 256 := by simpa using hn
    simp [indices, get, Nat.mod_eq_of_lt hlt]
  rw [entries, hslots, List.filterMap_map]
  rfl

end Slots

end Mavlink
