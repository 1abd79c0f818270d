/-!
# Finite maps from names

Fields of a payload and sources of a system are both found by name and listed in the order of
their names. A `NameMap` keeps its entries in ascending order, so that two maps with the same
look-ups are equal and listing needs no sorting.

## Main results

* `get?_insert`, `get?_filter`, `get?_map`: what each operation does to every look-up.
* `get?_ofList_of_mem`: a map of entries with different names finds every entry.
* `mem_values_iff`: what the values are.
* `ext_get?`: a map is determined by its look-ups.
-/

namespace Mavlink

/-- A finite map from names to values, with its entries in ascending order of their names. -/
structure NameMap (α : Type) where
  entries : List (String × α)
  ascending : entries.Pairwise fun x y => x.1 < y.1

namespace NameMap

variable {α : Type}

/-- The map without entries. -/
def empty : NameMap α := ⟨[], .nil⟩

instance : EmptyCollection (NameMap α) := ⟨empty⟩

instance : Inhabited (NameMap α) := ⟨empty⟩

/-- The value of the first entry with the given name. -/
def lookup (key : String) : List (String × α) → Option α
  | [] => none
  | (k, v) :: rest => if key = k then some v else lookup key rest

/-- The value at a name. -/
def get? (m : NameMap α) (name : String) : Option α :=
  lookup name m.entries

/-- Whether the map has a value at the name. -/
def contains (m : NameMap α) (name : String) : Bool :=
  (m.get? name).isSome

/-- A name that is found is contained. -/
theorem contains_of_get? {m : NameMap α} {name : String} {value : α}
    (h : m.get? name = some value) : m.contains name = true := by
  rw [contains, h]
  rfl

/-- The number of entries. -/
def size (m : NameMap α) : Nat :=
  m.entries.length

/-- The values in ascending order of their names. -/
def values (m : NameMap α) : List α :=
  m.entries.map (·.2)

/-! ### Insertion -/

/-- Entries in ascending order with the value at one name set. -/
def insertEntry (name : String) (value : α) : List (String × α) → List (String × α)
  | [] => [(name, value)]
  | (k, v) :: rest =>
    if name < k then (name, value) :: (k, v) :: rest
    else if name = k then (name, value) :: rest
    else (k, v) :: insertEntry name value rest

/-- Inserting adds at most the entry of the inserted name. -/
theorem mem_insertEntry {name : String} {value : α} {l : List (String × α)} {x : String × α}
    (h : x ∈ insertEntry name value l) : x.1 = name ∨ x ∈ l := by
  induction l with
  | nil => simp_all [insertEntry]
  | cons e rest ih =>
    obtain ⟨k, v⟩ := e
    simp only [insertEntry] at h
    split at h
    · rcases List.mem_cons.1 h with rfl | h
      · exact .inl rfl
      · exact .inr h
    · split at h
      · rcases List.mem_cons.1 h with rfl | h
        · exact .inl rfl
        · exact .inr (List.mem_cons_of_mem _ h)
      · rcases List.mem_cons.1 h with rfl | h
        · exact .inr List.mem_cons_self
        · exact (ih h).imp_right (List.mem_cons_of_mem _)

/-- Inserting keeps the names in ascending order. -/
theorem ascending_insertEntry (name : String) (value : α) {l : List (String × α)}
    (h : l.Pairwise fun x y => x.1 < y.1) :
    (insertEntry name value l).Pairwise fun x y => x.1 < y.1 := by
  induction l with
  | nil => simp [insertEntry]
  | cons e rest ih =>
    obtain ⟨k, v⟩ := e
    obtain ⟨hk, hrest⟩ := List.pairwise_cons.1 h
    simp only [insertEntry]
    split
    · next hlt =>
      refine List.pairwise_cons.2 ⟨fun x hx => ?_, h⟩
      rcases List.mem_cons.1 hx with rfl | hx
      · exact hlt
      · exact String.lt_trans hlt (hk x hx)
    · split
      · next heq => exact List.pairwise_cons.2 ⟨fun x hx => heq ▸ hk x hx, hrest⟩
      · next hnlt hne =>
        have hgt : k < name := Std.lt_of_le_of_ne (String.not_lt.1 hnlt) (Ne.symm hne)
        refine List.pairwise_cons.2 ⟨fun x hx => ?_, ih hrest⟩
        rcases mem_insertEntry hx with hx | hx
        · exact hx ▸ hgt
        · exact hk x hx

/-- The map with the value at one name set. -/
def insert (m : NameMap α) (name : String) (value : α) : NameMap α :=
  ⟨insertEntry name value m.entries, ascending_insertEntry name value m.ascending⟩

/-- The map with the given entries; of two entries with one name the later one stays. -/
def ofList (l : List (String × α)) : NameMap α :=
  l.foldl (fun m e => m.insert e.1 e.2) ∅

/-- The inserted value is found by its name, and every other name as before. -/
theorem lookup_insertEntry (name : String) (value : α) (l : List (String × α)) (key : String) :
    lookup key (insertEntry name value l) = if key = name then some value else lookup key l := by
  induction l with
  | nil => simp [insertEntry, lookup]
  | cons e rest ih =>
    obtain ⟨k, v⟩ := e
    simp only [insertEntry]
    split
    · simp only [lookup]
    · split
      · next heq =>
        subst heq
        by_cases h : key = name <;> simp [lookup, h]
      · next hne =>
        simp only [lookup, ih]
        by_cases h : key = name
        · simp [h, hne]
        · simp [h]

/-- Setting the value at one name changes the look-up of that name only. -/
theorem get?_insert (m : NameMap α) (name : String) (value : α) (key : String) :
    (m.insert name value).get? key = if key = name then some value else m.get? key :=
  lookup_insertEntry name value m.entries key

/-- Nothing is found in the empty map. -/
@[simp] theorem get?_empty (key : String) : (∅ : NameMap α).get? key = none := rfl

/-- A map of entries finds the last entry with a name. -/
theorem get?_ofList_reverse (l : List (String × α)) (key : String) :
    (ofList l.reverse).get? key = lookup key l := by
  induction l with
  | nil => rfl
  | cons e rest ih =>
    obtain ⟨k, v⟩ := e
    have hsplit : ofList (rest.reverse ++ [(k, v)]) = (ofList rest.reverse).insert k v :=
      List.foldl_append
    rw [List.reverse_cons, hsplit, get?_insert, ih, lookup]

/-- If no name occurs twice, every entry is found by its name. -/
theorem lookup_of_mem {l : List (String × α)} (h : (l.map Prod.fst).Nodup) {key : String}
    {value : α} (hmem : (key, value) ∈ l) : lookup key l = some value := by
  induction l with
  | nil => exact absurd hmem List.not_mem_nil
  | cons e rest ih =>
    obtain ⟨k, v⟩ := e
    obtain ⟨hk, hrest⟩ := List.nodup_cons.1 h
    rcases List.mem_cons.1 hmem with heq | hmem
    · cases heq
      rw [lookup, if_pos rfl]
    · have hkey : key ∈ rest.map Prod.fst := List.mem_map_of_mem (f := Prod.fst) hmem
      have hne : key ≠ k := fun heq => hk (heq ▸ hkey)
      rw [lookup, if_neg hne, ih hrest hmem]

/-- What is not found is not the name of an entry. -/
theorem lookup_eq_none_iff {l : List (String × α)} {key : String} :
    lookup key l = none ↔ key ∉ l.map Prod.fst := by
  induction l with
  | nil => simp [lookup]
  | cons e rest ih =>
    obtain ⟨k, v⟩ := e
    by_cases h : key = k <;> simp [lookup, h, ih]

/-- **A map of entries with different names** finds every entry. -/
theorem get?_ofList_of_mem {l : List (String × α)} (h : (l.map Prod.fst).Nodup) {key : String}
    {value : α} (hmem : (key, value) ∈ l) : (ofList l).get? key = some value := by
  have hreverse : (l.reverse.map Prod.fst).Nodup := by
    rw [List.map_reverse]
    exact List.pairwise_reverse.2 (h.imp Ne.symm)
  have hfind := get?_ofList_reverse l.reverse key
  rw [List.reverse_reverse] at hfind
  rw [hfind, lookup_of_mem hreverse (List.mem_reverse.2 hmem)]

/-- What is not found in the map of a list is not a name in the list. -/
theorem get?_ofList_eq_none_iff {l : List (String × α)} {key : String} :
    (ofList l).get? key = none ↔ key ∉ l.map Prod.fst := by
  have hfind := get?_ofList_reverse l.reverse key
  rw [List.reverse_reverse] at hfind
  rw [hfind, lookup_eq_none_iff, List.map_reverse, List.mem_reverse]

/-! ### Selecting and changing values -/

/-- The map with the entries whose value satisfies `p`. -/
def filter (m : NameMap α) (p : α → Bool) : NameMap α :=
  ⟨m.entries.filter fun e => p e.2, m.ascending.filter _⟩

/-- The map with every value changed by `f`, which also sees the name. -/
def map {β : Type} (m : NameMap α) (f : String → α → β) : NameMap β :=
  ⟨m.entries.map fun e => (e.1, f e.1 e.2), List.pairwise_map.2 m.ascending⟩

/-- The map with the value at one name, if there is one, changed by `f`. -/
def modify (m : NameMap α) (name : String) (f : α → α) : NameMap α :=
  m.map fun k v => if k = name then f v else v

/-- A changed value is found where the value was found before. -/
theorem lookup_map {β : Type} (f : String → α → β) (l : List (String × α)) (key : String) :
    lookup key (l.map fun e => (e.1, f e.1 e.2)) = (lookup key l).map (f key) := by
  induction l with
  | nil => rfl
  | cons e rest ih =>
    obtain ⟨k, v⟩ := e
    simp only [List.map_cons, lookup, ih]
    by_cases h : key = k <;> simp [h]

/-- A changed map finds the changed value. -/
theorem get?_map {β : Type} (m : NameMap α) (f : String → α → β) (key : String) :
    (m.map f).get? key = (m.get? key).map (f key) :=
  lookup_map f m.entries key

/-- Changing the value at one name changes the look-up of that name only. -/
theorem get?_modify (m : NameMap α) (name : String) (f : α → α) (key : String) :
    (m.modify name f).get? key = if key = name then (m.get? key).map f else m.get? key := by
  rw [modify, get?_map]
  by_cases h : key = name
  · simp [h]
  · simp [h]

/-- A name before all names of a list is not found in it. -/
theorem lookup_eq_none_of_lt {l : List (String × α)} {key : String}
    (h : ∀ x ∈ l, key < x.1) : lookup key l = none := by
  induction l with
  | nil => rfl
  | cons e rest ih =>
    obtain ⟨k, v⟩ := e
    have hne : key ≠ k := fun heq => String.lt_irrefl _ (heq ▸ h (k, v) List.mem_cons_self)
    simp [lookup, hne, ih fun x hx => h x (List.mem_cons_of_mem _ hx)]

/-- In ascending order, a name is found among the kept entries if its value is kept. -/
theorem lookup_filter {l : List (String × α)} (hl : l.Pairwise fun x y => x.1 < y.1)
    (p : α → Bool) (key : String) :
    lookup key (l.filter fun e => p e.2) = (lookup key l).filter p := by
  induction l with
  | nil => rfl
  | cons e rest ih =>
    obtain ⟨k, v⟩ := e
    obtain ⟨hk, hrest⟩ := List.pairwise_cons.1 hl
    by_cases hp : p v
    · simp only [List.filter_cons, hp, if_true, lookup, ih hrest]
      by_cases h : key = k <;> simp [h, Option.filter, hp]
    · simp only [List.filter_cons, hp, if_false, lookup, ih hrest, Bool.false_eq_true]
      by_cases h : key = k
      · subst h
        simp [lookup_eq_none_of_lt hk, Option.filter, hp]
      · simp [h]

/-- A filtered map finds the values that satisfy the filter. -/
theorem get?_filter (m : NameMap α) (p : α → Bool) (key : String) :
    (m.filter p).get? key = (m.get? key).filter p :=
  lookup_filter m.ascending p key

/-! ### Values -/

/-- No name occurs twice in a map. -/
theorem nodup_names (m : NameMap α) : (m.entries.map Prod.fst).Nodup := by
  refine List.pairwise_map.2 (m.ascending.imp ?_)
  intro x y hlt heq
  exact String.lt_irrefl _ (heq ▸ hlt)

/-- What is found is an entry. -/
theorem mem_of_lookup {l : List (String × α)} {key : String} {value : α}
    (h : lookup key l = some value) : (key, value) ∈ l := by
  induction l with
  | nil => simp [lookup] at h
  | cons e rest ih =>
    obtain ⟨k, v⟩ := e
    simp only [lookup] at h
    split at h
    · next heq =>
      cases h
      exact heq ▸ List.mem_cons_self
    · exact List.mem_cons_of_mem _ (ih h)

/-- What a map of entries finds is one of the entries. -/
theorem mem_of_get?_ofList {l : List (String × α)} {key : String} {value : α}
    (h : (ofList l).get? key = some value) : (key, value) ∈ l := by
  have hfind := get?_ofList_reverse l.reverse key
  rw [List.reverse_reverse] at hfind
  exact List.mem_reverse.1 (mem_of_lookup (hfind.symm.trans h))

/-- The values are those that are found at some name. -/
theorem mem_values_iff {m : NameMap α} {value : α} :
    value ∈ m.values ↔ ∃ name, m.get? name = some value := by
  constructor
  · intro h
    obtain ⟨⟨name, _⟩, hmem, rfl⟩ := List.mem_map.1 h
    exact ⟨name, lookup_of_mem m.nodup_names hmem⟩
  · rintro ⟨name, h⟩
    exact List.mem_map_of_mem (f := Prod.snd) (mem_of_lookup h)

/-- Changing the values does not change what `g` makes of them, if no single change does. -/
theorem map_values_map {β γ : Type} (m : NameMap α) {f : String → α → β} {g : β → γ}
    {g' : α → γ} (h : ∀ name value, g (f name value) = g' value) :
    (m.map f).values.map g = m.values.map g' := by
  simp only [values, map, List.map_map]
  exact List.map_congr_left fun e _ => h e.1 e.2

/-- A filter that leaves as many entries as there were leaves all of them. -/
theorem filter_eq_self_of_size_sub_eq_zero {m : NameMap α} {p : α → Bool}
    (h : m.size - (m.filter p).size = 0) : m.filter p = m := by
  obtain ⟨l, hl⟩ := m
  have hlen : (l.filter fun e => p e.2).length = l.length :=
    Nat.le_antisymm (List.length_filter_le _ l) (Nat.le_of_sub_eq_zero h)
  have hall : (l.filter fun e => p e.2) = l :=
    List.filter_sublist.eq_of_length hlen
  simp only [filter, hall]

/-! ### Changing values after other operations -/

/-- The values of a changed map are the changed values. -/
theorem values_map {β : Type} (m : NameMap α) (f : α → β) :
    (m.map fun _ v => f v).values = m.values.map f := by
  simp only [values, map, List.map_map]
  rfl

/-- Changing the values keeps the number of entries. -/
theorem size_map {β : Type} (m : NameMap α) (f : String → α → β) : (m.map f).size = m.size :=
  List.length_map _

/-- Changing the values twice is changing them once by both changes. -/
theorem map_map {β γ : Type} (m : NameMap α) (f : String → α → β) (g : String → β → γ) :
    (m.map f).map g = m.map fun name v => g name (f name v) := by
  simp only [map, List.map_map]
  rfl

/-- Values may be selected before they are changed. -/
theorem filter_map {β : Type} (m : NameMap α) (f : α → β) (p : β → Bool) :
    (m.map fun _ v => f v).filter p = (m.filter fun v => p (f v)).map fun _ v => f v := by
  simp only [filter, map, List.filter_map]
  rfl

/-! ### Look-ups determine the map -/

/-- Lists in ascending order in which the same is found have the same entries. -/
theorem entries_eq_of_lookup_eq {l₁ l₂ : List (String × α)}
    (h₁ : l₁.Pairwise fun x y => x.1 < y.1) (h₂ : l₂.Pairwise fun x y => x.1 < y.1)
    (h : ∀ key, lookup key l₁ = lookup key l₂) : l₁ = l₂ := by
  induction l₁ generalizing l₂ with
  | nil =>
    cases l₂ with
    | nil => rfl
    | cons e rest => exact absurd (h e.1) (by simp [lookup])
  | cons e₁ rest₁ ih =>
    cases l₂ with
    | nil => exact absurd (h e₁.1) (by simp [lookup])
    | cons e₂ rest₂ =>
      obtain ⟨k₁, v₁⟩ := e₁
      obtain ⟨k₂, v₂⟩ := e₂
      obtain ⟨hk₁, hrest₁⟩ := List.pairwise_cons.1 h₁
      obtain ⟨hk₂, hrest₂⟩ := List.pairwise_cons.1 h₂
      have not_lt : ∀ {a b : String} {v : α} {r s : List (String × α)} {w : α},
          (∀ x ∈ s, b < x.1) → (∀ key, lookup key ((a, v) :: r) = lookup key ((b, w) :: s)) →
            ¬ a < b := by
        intro a b v r s w hs hlook hlt
        have hnone : lookup a ((b, w) :: s) = none :=
          lookup_eq_none_of_lt fun x hx => by
            rcases List.mem_cons.1 hx with rfl | hx
            · exact hlt
            · exact String.lt_trans hlt (hs x hx)
        exact absurd ((hlook a).trans hnone) (by simp [lookup])
      have hk : k₁ = k₂ := by
        refine String.le_antisymm (String.not_lt.1 ?_) (String.not_lt.1 ?_)
        · exact not_lt hk₁ fun key => (h key).symm
        · exact not_lt hk₂ h
      subst hk
      have hv : v₁ = v₂ := by simpa [lookup] using h k₁
      subst hv
      refine congrArg _ (ih hrest₁ hrest₂ fun key => ?_)
      by_cases hkey : key = k₁
      · rw [hkey, lookup_eq_none_of_lt hk₁, lookup_eq_none_of_lt hk₂]
      · simpa [lookup, hkey] using h key

/-- A map is determined by its look-ups. -/
theorem ext_get? {m₁ m₂ : NameMap α} (h : ∀ key, m₁.get? key = m₂.get? key) : m₁ = m₂ := by
  obtain ⟨l₁, h₁⟩ := m₁
  obtain ⟨l₂, h₂⟩ := m₂
  obtain rfl := entries_eq_of_lookup_eq h₁ h₂ h
  rfl

/-- A value may be changed before it is inserted. -/
theorem map_insert {β : Type} (m : NameMap α) (name : String) (value : α) (f : String → α → β) :
    (m.insert name value).map f = (m.map f).insert name (f name value) := by
  refine ext_get? fun key => ?_
  rw [get?_map, get?_insert, get?_insert, get?_map]
  by_cases h : key = name
  · rw [if_pos h, if_pos h, h, Option.map_some]
  · rw [if_neg h, if_neg h]

instance [DecidableEq α] : DecidableEq (NameMap α) := fun m₁ m₂ =>
  decidable_of_iff (m₁.entries = m₂.entries)
    ⟨fun h => by cases m₁; cases m₂; cases h; rfl, fun h => h ▸ rfl⟩

instance [Repr α] : Repr (NameMap α) := ⟨fun m n => reprPrec m.entries n⟩

end NameMap

end Mavlink
