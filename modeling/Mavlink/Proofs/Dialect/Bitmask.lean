import Mathlib.Data.List.Nodup
import Mathlib.Data.Set.Lattice
import Mavlink.Dialect.Declaration

/-!
# Flags combine to unions of declared entries

A mask is the set of its bits. Each flag *means* a set of bits: a name those of the entry that it
refers to, which is the first entry with this name, and a raw value those of all entries that it
wholly contains. A list of flags combines to the union of what its members mean, unless one of them
is a name that no entry has.

So a raw value is projected onto the unions of declared entries: it gives the greatest of them that
it contains. Entries may overlap, contain each other or be zero, and several may have one name or
one value; none of this matters, except that a name is found only once.

## Main results

* `bits_restrict`: a raw value keeps the bits of the entries that it wholly contains.
* `flagBits_eq_ok_iff`: what one flag contributes.
* `addFlags_eq_ok_iff`: what a list of flags adds to a mask.
* `combine_of_unknown`: the first unknown name is reported.
* `combine_projects`: the laws of combining flags.
-/

namespace Mavlink

/-! ### Masks as sets of bits -/

namespace Mask

/-- The bits of a mask. -/
def bits (m : UInt64) : Set Nat :=
  {i | m.toNat.testBit i = true}

/-- A mask is determined by its bits. -/
theorem bits_inj {a b : UInt64} : bits a = bits b ↔ a = b := by
  refine ⟨fun h => ?_, congrArg bits⟩
  refine UInt64.toNat_inj.1 (Nat.eq_of_testBit_eq fun i => ?_)
  exact Bool.eq_iff_iff.2 (Set.ext_iff.1 h i)

/-- The empty mask has no bits. -/
@[simp] theorem bits_zero : bits 0 = ∅ := by
  ext i
  simp [bits]

/-- The bits of two masks together are the bits of either. -/
@[simp] theorem bits_or (a b : UInt64) : bits (a ||| b) = bits a ∪ bits b := by
  ext i
  simp [bits]

/-- The bits of two masks in common are the bits of both. -/
theorem bits_and (a b : UInt64) : bits (a &&& b) = bits a ∩ bits b := by
  ext i
  simp [bits]

/-- One mask **wholly contains** another if it has all its bits. -/
theorem and_eq_left_iff {a b : UInt64} : a &&& b = a ↔ bits a ⊆ bits b := by
  rw [← bits_inj, bits_and, Set.inter_eq_left]

end Mask

open Mask

namespace Enumeration

variable {e : Enumeration} {flags : List Flag}

/-! ### What flags mean -/

/-- The bits of all entries that a mask wholly contains. -/
def covered (e : Enumeration) (mask : UInt64) : Set Nat :=
  ⋃ entry ∈ {entry | entry ∈ e.entries ∧ bits entry.value ⊆ bits mask}, bits entry.value

/-- Whether a mask is a **union of declared entries**. -/
def IsUnion (e : Enumeration) (mask : UInt64) : Prop :=
  ∃ chosen ⊆ {entry | entry ∈ e.entries}, bits mask = ⋃ entry ∈ chosen, bits entry.value

/-- Whether an entry has the name. -/
def Declares (e : Enumeration) (name : String) : Prop :=
  ∃ entry ∈ e.entries, entry.name = name

/-- A name **refers to** the first entry that has it. -/
def RefersTo (e : Enumeration) (name : String) (entry : EnumEntry) : Prop :=
  ∃ front back, e.entries = front ++ entry :: back ∧ entry.name = name ∧
    ∀ other ∈ front, other.name ≠ name

/-- An enumeration **knows** a raw value and the names of its entries. -/
def Knows (e : Enumeration) : Flag → Prop
  | .name name => e.Declares name
  | .value _ => True

/-- The bits that a flag means. -/
def meant (e : Enumeration) : Flag → Set Nat
  | .name name => ⋃ entry ∈ {entry | e.RefersTo name entry}, bits entry.value
  | .value mask => e.covered mask

/-- A bit is covered if it is one of an entry that the mask wholly contains. -/
theorem mem_covered {mask : UInt64} {i : Nat} :
    i ∈ e.covered mask ↔
      ∃ entry ∈ e.entries, bits entry.value ⊆ bits mask ∧ i ∈ bits entry.value := by
  simp only [covered, Set.mem_ofPred_eq, Set.mem_iUnion, exists_prop, and_assoc]

/-- A mask has all bits that it covers. -/
theorem covered_subset (mask : UInt64) : e.covered mask ⊆ bits mask :=
  Set.iUnion₂_subset fun _ h => h.2

/-- A union of declared entries is covered by the entries that it contains. -/
theorem covered_eq_bits_iff {mask : UInt64} : e.covered mask = bits mask ↔ e.IsUnion mask := by
  constructor
  · intro h
    exact ⟨{entry | entry ∈ e.entries ∧ bits entry.value ⊆ bits mask}, fun _ h => h.1, h.symm⟩
  · rintro ⟨chosen, hchosen, hmask⟩
    refine Set.Subset.antisymm (covered_subset mask) fun i hi => ?_
    rw [hmask, Set.mem_iUnion₂] at hi
    obtain ⟨entry, hentry, hi⟩ := hi
    refine mem_covered.2 ⟨entry, hchosen hentry, ?_, hi⟩
    rw [hmask]
    exact Set.subset_biUnion_of_mem (u := fun entry : EnumEntry => bits entry.value) hentry

/-- The value of an entry is a union of declared entries. -/
theorem isUnion_value {entry : EnumEntry} (h : entry ∈ e.entries) : e.IsUnion entry.value :=
  ⟨{entry}, Set.singleton_subset_iff.2 h, by rw [Set.biUnion_singleton]⟩

/-- A name refers to a declared entry. -/
theorem RefersTo.mem {name : String} {entry : EnumEntry} (h : e.RefersTo name entry) :
    entry ∈ e.entries := by
  obtain ⟨front, back, hentries, -⟩ := h
  rw [hentries]
  exact List.mem_append_right front List.mem_cons_self

/-! ### One flag -/

/-- Folding the values of entries over a mask adds their bits. -/
theorem bits_foldl (entries : List EnumEntry) (mask : UInt64) :
    bits (entries.foldl (fun bits entry => bits ||| entry.value) mask) =
      bits mask ∪ ⋃ entry ∈ {entry | entry ∈ entries}, bits entry.value := by
  induction entries generalizing mask with
  | nil => simp
  | cons entry rest ih =>
      rw [List.foldl_cons, ih, bits_or]
      ext i
      simp [or_assoc]

/-- **A raw value keeps the bits of the entries that it wholly contains.** Leaving out the zero
entries makes no difference: they have no bits. -/
theorem bits_restrict (mask : UInt64) : bits (e.restrict mask) = e.covered mask := by
  rw [restrict, bits_foldl, bits_zero, Set.empty_union]
  ext i
  rw [mem_covered]
  simp only [flagsIn, List.mem_filter, Bool.and_eq_true, decide_eq_true_eq, and_eq_left_iff,
    Set.mem_ofPred_eq, Set.mem_iUnion, exists_prop, and_assoc]
  constructor
  · rintro ⟨entry, hentry, -, hsub, hi⟩
    exact ⟨entry, hentry, hsub, hi⟩
  · rintro ⟨entry, hentry, hsub, hi⟩
    refine ⟨entry, hentry, fun hzero => ?_, hsub, hi⟩
    rw [hzero, bits_zero] at hi
    exact hi

/-- **A union of declared entries is its own projection.** -/
theorem restrict_eq_self_iff {mask : UInt64} : e.restrict mask = mask ↔ e.IsUnion mask := by
  rw [← bits_inj, bits_restrict, covered_eq_bits_iff]

/-- What is left of a mask is a union of declared entries. -/
theorem isUnion_restrict (mask : UInt64) : e.IsUnion (e.restrict mask) :=
  ⟨{entry | entry ∈ e.entries ∧ bits entry.value ⊆ bits mask}, fun _ h => h.1, bits_restrict mask⟩

/-- The search for a name finds the entry that the name refers to. -/
theorem find?_name_eq_some_iff {name : String} {entry : EnumEntry} :
    (e.entries.find? fun entry => entry.name = name) = some entry ↔ e.RefersTo name entry := by
  rw [List.find?_eq_some_iff_append, decide_eq_true_eq]
  simp only [Bool.not_eq_true', decide_eq_false_iff_not]
  constructor
  · rintro ⟨hname, front, back, hentries, hfront⟩
    exact ⟨front, back, hentries, hname, hfront⟩
  · rintro ⟨front, back, hentries, hname, hfront⟩
    exact ⟨hname, front, back, hentries, hfront⟩

/-- A name refers to one entry only. -/
theorem RefersTo.unique {name : String} {entry entry' : EnumEntry} (h : e.RefersTo name entry)
    (h' : e.RefersTo name entry') : entry = entry' :=
  Option.some.inj ((find?_name_eq_some_iff.2 h).symm.trans (find?_name_eq_some_iff.2 h'))

/-- A declared name refers to an entry. -/
theorem exists_refersTo_iff {name : String} :
    (∃ entry, e.RefersTo name entry) ↔ e.Declares name := by
  simp only [← find?_name_eq_some_iff, ← Option.isSome_iff_exists, List.find?_isSome,
    decide_eq_true_eq, Declares]

/-- The value of a name is that of the entry that it refers to. -/
theorem valueOf_of_refersTo {name : String} {entry : EnumEntry} (h : e.RefersTo name entry) :
    e.valueOf name = .ok entry.value := by
  rw [valueOf, find?_name_eq_some_iff.2 h]

/-- A name that no entry has is reported. -/
theorem valueOf_of_not_declares {name : String} (h : ¬ e.Declares name) :
    e.valueOf name = .error (.unknownEntry e.name name) := by
  have hnone : (e.entries.find? fun entry => entry.name = name) = none := by
    rw [Option.eq_none_iff_forall_ne_some]
    exact fun entry hentry => h (exists_refersTo_iff.1 ⟨entry, find?_name_eq_some_iff.1 hentry⟩)
  rw [valueOf, hnone]

/-- If no two entries have the same name, each is what its name refers to. -/
theorem refersTo_of_nodup (hnames : (e.entries.map EnumEntry.name).Nodup) {entry : EnumEntry}
    (h : entry ∈ e.entries) : e.RefersTo entry.name entry := by
  obtain ⟨other, hother⟩ := exists_refersTo_iff.2 ⟨entry, h, rfl⟩
  have hname : other.name = entry.name := by
    obtain ⟨front, back, -, hname, -⟩ := hother
    exact hname
  obtain rfl : other = entry := List.inj_on_of_nodup_map hnames hother.mem h hname
  exact hother

/-- A name means the bits of the entry that it refers to. -/
theorem meant_name {name : String} {entry : EnumEntry} (h : e.RefersTo name entry) :
    e.meant (.name name) = bits entry.value := by
  have honly : {other | e.RefersTo name other} = {entry} :=
    Set.ext fun other => ⟨fun hother => hother.unique h, fun hother => hother ▸ h⟩
  rw [meant, honly, Set.biUnion_singleton]

/-- **What one flag contributes.** -/
theorem flagBits_eq_ok_iff {flag : Flag} {m : UInt64} :
    e.flagBits flag = .ok m ↔ e.Knows flag ∧ bits m = e.meant flag := by
  cases flag with
  | name name =>
      rw [flagBits, Knows]
      by_cases hname : e.Declares name
      · obtain ⟨entry, hentry⟩ := exists_refersTo_iff.2 hname
        rw [valueOf_of_refersTo hentry, meant_name hentry, Except.ok.injEq, bits_inj]
        exact ⟨fun h => ⟨hname, h.symm⟩, fun h => h.2.symm⟩
      · rw [valueOf_of_not_declares hname]
        refine ⟨fun h => ?_, fun h => absurd h.1 hname⟩
        cases h
  | value mask =>
      rw [flagBits, Except.ok.injEq, ← bits_inj, bits_restrict]
      exact ⟨fun h => ⟨trivial, h.symm⟩, fun h => h.2.symm⟩

/-- Every bit that a flag means belongs to an entry of which it means all bits. -/
theorem exists_of_mem_meant {flag : Flag} {i : Nat} (hi : i ∈ e.meant flag) :
    ∃ entry ∈ e.entries, bits entry.value ⊆ e.meant flag ∧ i ∈ bits entry.value := by
  cases flag with
  | name name =>
      obtain ⟨entry, hentry, hi⟩ := Set.mem_iUnion₂.1 hi
      exact ⟨entry, hentry.mem, (meant_name hentry).superset, hi⟩
  | value mask =>
      obtain ⟨entry, hentry, hsub, hi⟩ := mem_covered.1 hi
      exact ⟨entry, hentry, fun j hj => mem_covered.2 ⟨entry, hentry, hsub, hj⟩, hi⟩

/-- A known flag contributes something. -/
theorem exists_flagBits {flag : Flag} (h : e.Knows flag) : ∃ m, e.flagBits flag = .ok m := by
  cases flag with
  | name name =>
      obtain ⟨entry, hentry⟩ := exists_refersTo_iff.2 h
      exact ⟨entry.value, valueOf_of_refersTo hentry⟩
  | value mask => exact ⟨e.restrict mask, rfl⟩

/-- **The raw value of an entry** contributes what the entry's name does. -/
theorem flagBits_value_of_refersTo {name : String} {entry : EnumEntry}
    (h : e.RefersTo name entry) : e.flagBits (.value entry.value) = e.flagBits (.name name) := by
  rw [flagBits, flagBits, valueOf_of_refersTo h, restrict_eq_self_iff.2 (isUnion_value h.mem)]

/-! ### Lists of flags -/

/-- The first flag is added first. -/
theorem addFlags_cons (mask : UInt64) (flag : Flag) (rest : List Flag) :
    e.addFlags mask (flag :: rest) =
      e.flagBits flag >>= fun bits => e.addFlags (mask ||| bits) rest :=
  rfl

/-- Flags are added one list after the other. -/
theorem addFlags_append (mask : UInt64) (front back : List Flag) :
    e.addFlags mask (front ++ back) =
      e.addFlags mask front >>= fun m => e.addFlags m back := by
  induction front generalizing mask with
  | nil => rfl
  | cons flag rest ih =>
      rw [List.cons_append, addFlags_cons, addFlags_cons]
      cases e.flagBits flag with
      | error _ => rfl
      | ok m => exact ih (mask ||| m)

/-- **What a list of flags adds to a mask.** -/
theorem addFlags_eq_ok_iff {mask m : UInt64} :
    e.addFlags mask flags = .ok m ↔ (∀ flag ∈ flags, e.Knows flag) ∧
      bits m = bits mask ∪ ⋃ flag ∈ {flag | flag ∈ flags}, e.meant flag := by
  induction flags generalizing mask with
  | nil => simp [addFlags, bits_inj, eq_comm]
  | cons flag rest ih =>
      by_cases hflag : e.Knows flag
      · obtain ⟨b, hb⟩ := exists_flagBits hflag
        have hmeant := (flagBits_eq_ok_iff.1 hb).2
        have hunion : bits (mask ||| b) ∪ ⋃ flag ∈ {flag | flag ∈ rest}, e.meant flag =
            bits mask ∪ ⋃ flag' ∈ {flag' | flag' ∈ flag :: rest}, e.meant flag' := by
          rw [bits_or, hmeant]
          ext i
          simp [or_assoc]
        rw [addFlags_cons, hb, ← hunion, List.forall_mem_cons, and_iff_right hflag]
        exact ih
      · constructor
        · intro h
          rw [addFlags_cons] at h
          cases hb : e.flagBits flag with
          | error _ => rw [hb] at h; cases h
          | ok b => exact absurd (flagBits_eq_ok_iff.1 hb).1 hflag
        · exact fun h => absurd (h.1 flag List.mem_cons_self) hflag

/-- Known flags can be added to any mask. -/
theorem exists_addFlags (h : ∀ flag ∈ flags, e.Knows flag) (mask : UInt64) :
    ∃ m, e.addFlags mask flags = .ok m := by
  induction flags generalizing mask with
  | nil => exact ⟨mask, rfl⟩
  | cons flag rest ih =>
      obtain ⟨b, hb⟩ := exists_flagBits (h flag List.mem_cons_self)
      obtain ⟨m, hm⟩ := ih (fun flag hflag => h flag (List.mem_cons_of_mem _ hflag)) (mask ||| b)
      exact ⟨m, by rw [addFlags_cons, hb]; exact hm⟩

/-- The names of entries that they refer to add the values of these entries. -/
theorem addFlags_names {entries : List EnumEntry}
    (h : ∀ entry ∈ entries, e.RefersTo entry.name entry) (mask : UInt64) :
    e.addFlags mask (entries.map fun entry => .name entry.name) =
      .ok (entries.foldl (fun bits entry => bits ||| entry.value) mask) := by
  induction entries generalizing mask with
  | nil => rfl
  | cons entry rest ih =>
      rw [List.map_cons, addFlags_cons, flagBits,
        valueOf_of_refersTo (h entry List.mem_cons_self)]
      exact ih (fun entry hentry => h entry (List.mem_cons_of_mem _ hentry)) _

/-! ### Combining -/

/-- Flags of a bitmask are added to the empty mask. -/
theorem combine_of_isBitmask (h : e.isBitmask = true) (flags : List Flag) :
    e.combine flags = e.addFlags 0 flags :=
  if_pos h

/-- **Which masks flags combine to.** -/
theorem combine_eq_ok_iff (h : e.isBitmask = true) {m : UInt64} :
    e.combine flags = .ok m ↔ (∀ flag ∈ flags, e.Knows flag) ∧
      bits m = ⋃ flag ∈ {flag | flag ∈ flags}, e.meant flag := by
  rw [combine_of_isBitmask h, addFlags_eq_ok_iff, bits_zero, Set.empty_union]

/-- **A mask that flags combine to is a union of declared entries.** -/
theorem isUnion_of_combine (h : e.isBitmask = true) {m : UInt64} (hm : e.combine flags = .ok m) :
    e.IsUnion m := by
  obtain ⟨-, hbits⟩ := (combine_eq_ok_iff h).1 hm
  refine covered_eq_bits_iff.1 (Set.Subset.antisymm (covered_subset m) fun i hi => ?_)
  rw [hbits] at hi
  obtain ⟨flag, hflag, hi⟩ := Set.mem_iUnion₂.1 hi
  obtain ⟨entry, hentry, hsub, hi⟩ := exists_of_mem_meant hi
  refine mem_covered.2 ⟨entry, hentry, hsub.trans ?_, hi⟩
  rw [hbits]
  exact Set.subset_biUnion_of_mem hflag

/-- A union of declared entries that a mask wholly contains is wholly contained in the projection
of this mask. -/
theorem bits_subset_restrict {u mask : UInt64} (hu : e.IsUnion u) (hsub : bits u ⊆ bits mask) :
    bits u ⊆ bits (e.restrict mask) := by
  rw [bits_restrict, ← covered_eq_bits_iff.2 hu]
  intro i hi
  obtain ⟨entry, hentry, hentryu, hi⟩ := mem_covered.1 hi
  exact mem_covered.2 ⟨entry, hentry, hentryu.trans hsub, hi⟩

/-- The first unknown name is reported. -/
theorem combine_of_unknown (h : e.isBitmask = true) {front : List Flag} {name : String}
    (hfront : ∀ flag ∈ front, e.Knows flag) (hname : ¬ e.Declares name) (back : List Flag) :
    e.combine (front ++ .name name :: back) = .error (.unknownEntry e.name name) := by
  obtain ⟨m, hm⟩ := exists_addFlags hfront 0
  rw [combine_of_isBitmask h, addFlags_append, hm]
  show e.addFlags m (.name name :: back) = _
  rw [addFlags_cons, flagBits, valueOf_of_not_declares hname]
  rfl

/-- Flags can be combined exactly if each of them is known. -/
theorem exists_combine_iff (h : e.isBitmask = true) :
    (∃ m, e.combine flags = .ok m) ↔ ∀ flag ∈ flags, e.Knows flag := by
  constructor
  · rintro ⟨m, hm⟩
    exact ((combine_eq_ok_iff h).1 hm).1
  · intro hknows
    rw [combine_of_isBitmask h]
    exact exists_addFlags hknows 0

/-- **Only the members of a list of flags matter.** -/
theorem combine_congr (h : e.isBitmask = true) {flags' : List Flag}
    (hknows : ∀ flag ∈ flags, e.Knows flag) (hsame : ∀ flag, flag ∈ flags' ↔ flag ∈ flags) :
    e.combine flags' = e.combine flags := by
  obtain ⟨m, hm⟩ := (exists_combine_iff h).2 hknows
  have hbits := ((combine_eq_ok_iff h).1 hm).2
  rw [hm, combine_eq_ok_iff h]
  simp only [hsame]
  exact ⟨hknows, hbits⟩

/-- A raw value alone is restricted to the declared entries. -/
theorem combine_value (h : e.isBitmask = true) (mask : UInt64) :
    e.combine [.value mask] = .ok (e.restrict mask) := by
  rw [combine_eq_ok_iff h]
  refine ⟨fun flag hflag => ?_, ?_⟩
  · obtain rfl := List.mem_singleton.1 hflag
    trivial
  · simp [bits_restrict, meant]

/-- Flags that add the same to every mask may replace each other among any other flags. -/
theorem combine_replace (h : e.isBitmask = true) {xs ys : List Flag}
    (hsame : ∀ mask, e.addFlags mask xs = e.addFlags mask ys) (front back : List Flag) :
    e.combine (front ++ xs ++ back) = e.combine (front ++ ys ++ back) := by
  rw [combine_of_isBitmask h, combine_of_isBitmask h, List.append_assoc, List.append_assoc,
    addFlags_append, addFlags_append]
  congr 1
  funext m
  rw [addFlags_append, addFlags_append, hsame]

/-- The value of an entry adds the bits that its name adds. -/
theorem addFlags_value_of_refersTo {name : String} {entry : EnumEntry}
    (h : e.RefersTo name entry) (mask : UInt64) :
    e.addFlags mask [.value entry.value] = e.addFlags mask [.name name] := by
  rw [addFlags_cons, addFlags_cons, flagBits_value_of_refersTo h]

/-- **The names of the entries that a mask wholly contains** add what the mask does. -/
theorem addFlags_flagsIn (hnames : (e.entries.map EnumEntry.name).Nodup) (v mask : UInt64) :
    e.addFlags mask ((e.flagsIn v).map fun entry => .name entry.name) =
      e.addFlags mask [.value v] := by
  have hrefers : ∀ entry ∈ e.flagsIn v, e.RefersTo entry.name entry :=
    fun entry hentry => refersTo_of_nodup hnames (List.mem_of_mem_filter hentry)
  rw [addFlags_names hrefers]
  show _ = Except.ok (mask ||| e.restrict v)
  refine congrArg Except.ok (bits_inj.1 ?_)
  rw [bits_or, restrict, bits_foldl, bits_foldl, bits_zero, Set.empty_union]

/-- An enumeration **projects flags onto its entries** if combining them obeys these laws. -/
structure Projects (e : Enumeration) : Prop where
  /-- Flags combine exactly if all their names are declared. -/
  combines_iff : ∀ flags, (∃ m, e.combine flags = .ok m) ↔ ∀ flag ∈ flags, e.Knows flag
  /-- Of the names that are not declared, the first one is reported. -/
  reports_first : ∀ front name back, (∀ flag ∈ front, e.Knows flag) → ¬ e.Declares name →
    e.combine (front ++ .name name :: back) = .error (.unknownEntry e.name name)
  /-- The order of the flags does not matter, and neither does how often each of them occurs. -/
  same_flags : ∀ flags flags', (∀ flag ∈ flags, e.Knows flag) →
    (∀ flag, flag ∈ flags' ↔ flag ∈ flags) → e.combine flags' = e.combine flags
  /-- A raw value gives the union of the declared entries that it wholly contains. It wholly
  contains this union, which is the greatest one of declared entries that it does. -/
  raw_value : ∀ v, ∃ m, e.combine [.value v] = .ok m ∧
    bits m = ⋃ entry ∈ {entry | entry ∈ e.entries ∧ bits entry.value ⊆ bits v}, bits entry.value ∧
    bits m ⊆ bits v ∧ e.IsUnion m ∧ ∀ u, e.IsUnion u → bits u ⊆ bits v → bits u ⊆ bits m
  /-- The result of combining flags is its own projection. -/
  idempotent : ∀ flags m, e.combine flags = .ok m → e.combine [.value m] = .ok m
  /-- Among any other flags, a name may be replaced by the raw value of its entry. -/
  name_or_value : ∀ name entry front back, e.RefersTo name entry →
    e.combine (front ++ .value entry.value :: back) = e.combine (front ++ .name name :: back)
  /-- If no two entries have the same name, a raw value may be replaced, among any other flags, by
  the names of the entries that it wholly contains. -/
  names_or_value : (e.entries.map EnumEntry.name).Nodup → ∀ v front back,
    e.combine (front ++ (e.flagsIn v).map (fun entry => .name entry.name) ++ back) =
      e.combine (front ++ .value v :: back)

/-- **The laws of combining flags.** Only a bitmask combines flags, and a bitmask projects them onto
its entries. -/
theorem combine_projects (e : Enumeration) :
    (e.isBitmask = false → ∀ flags, e.combine flags = .error (.notBitmask e.name)) ∧
    (e.isBitmask = true → e.Projects) := by
  refine ⟨fun h flags => ?_, fun h => ⟨?combines, ?reports, ?same, ?raw, ?idem, ?name, ?names⟩⟩
  · rw [combine, h, if_neg Bool.false_ne_true]
  case combines => exact fun flags => exists_combine_iff h
  case reports => exact fun front name back hfront hname => combine_of_unknown h hfront hname back
  case same => exact fun flags flags' hknows hsame => combine_congr h hknows hsame
  case raw =>
    refine fun v => ⟨e.restrict v, combine_value h v, bits_restrict v, ?_, isUnion_restrict v,
      fun u hu hsub => bits_subset_restrict hu hsub⟩
    rw [bits_restrict]
    exact covered_subset v
  case idem =>
    intro flags m hm
    rw [combine_value h, restrict_eq_self_iff.2 (isUnion_of_combine h hm)]
  case name =>
    intro name entry front back hentry
    simpa using combine_replace h (addFlags_value_of_refersTo hentry) front back
  case names =>
    intro hnames v front back
    simpa using combine_replace h (addFlags_flagsIn hnames v) front back

/-- A bitmask with overlapping entries, one of them zero and two with one value. The raw value 13
wholly contains those with the values 1, 4 and 12, but not 6, and the raw value 10 none of them. -/
theorem combine_projects_overlapping :
    ∃ e : Enumeration, e.isBitmask = true ∧ e.Projects ∧
      e.combine [.name "LOW", .value 13] = .ok 13 ∧ e.combine [.value 10] = .ok 0 := by
  refine ⟨⟨"FLAGS", true, [⟨"NONE", 0⟩, ⟨"LOW", 1⟩, ⟨"PAIR", 6⟩, ⟨"HIGH", 12⟩, ⟨"TOP", 12⟩,
    ⟨"FOUR", 4⟩]⟩, rfl, (combine_projects _).2 rfl, by decide, by decide⟩

end Enumeration

end Mavlink
