import Mavlink.Proofs.Health.Shared

/-!
# What a sweep counts

A sweep drops the silent sources of every system, and then looks whether the system has expired. So
the sources that it counts are those of all systems: of the ones that remain, and of the ones that
are forgotten as a whole.

## Main results

* `Track.sweep_fst`: of one system, the sources that have been silent too long are counted.
* `Monitor.knows_cases`: what becomes of a system.
* `Monitor.sweep_counts`: what the counts of a sweep say about the systems and their sources.
-/

namespace Mavlink

/-- The values that are kept and those that are not are all values. -/
theorem NameMap.size_filter_add_countP {α : Type} (m : NameMap α) (p : α → Bool) :
    (m.filter fun x => !p x).size + m.values.countP p = m.size := by
  have hlength := List.length_eq_countP_add_countP (fun e => !p e.2) (l := m.entries)
  rw [List.countP_eq_length_filter] at hlength
  rw [values, List.countP_map]
  refine Eq.trans (congrArg _ (List.countP_congr fun e _ => ?_)) hlength.symm
  simp

namespace Track

variable (c : MonitorConf) (now : Nat) (t : Track)

/-- The number of sources that have been silent too long. -/
def silent : Nat :=
  t.sources.values.countP fun s => olderThan now s.lastSeen c.sweep.sourceLifetime

/-- A sweep drops the sources that have been silent too long. -/
theorem size_sources_sweep :
    (t.sweep c now).2.sources.size + t.silent c now = t.sources.size := by
  rw [← t.sources.size_filter_add_countP
    fun s => olderThan now s.lastSeen c.sweep.sourceLifetime]
  simp only [sweep]
  split
  · rfl
  · rw [NameMap.size_map]
    rfl

/-- It counts them. -/
theorem sweep_fst : (t.sweep c now).1 = t.silent c now := by
  have hsize := t.sources.size_filter_add_countP
    fun s => olderThan now s.lastSeen c.sweep.sourceLifetime
  exact Nat.sub_eq_of_eq_add (hsize.symm.trans (Nat.add_comm _ _))

end Track

namespace Monitor

/-! ### Systems and their sources -/

/-- Whether a system is known. -/
def knows (m : Monitor) (s : UInt8) : Bool :=
  (m.tracks.get s).isSome

/-- The number of sources of a system. -/
def sourceCount (m : Monitor) (s : UInt8) : Nat :=
  (m.tracks.get s).elim 0 fun t => t.sources.size

/-- The number of sources **dropped from systems that remain**, between a monitor and a later one:
for each system that the later one knows, how many sources it has lost. -/
def dropped (m later : Monitor) : Nat :=
  ((Slots.indices.filter later.knows).map fun s => m.sourceCount s - later.sourceCount s).sum

/-- Whether a system has expired. -/
def expired (m : Monitor) (now : Nat) (s : UInt8) : Bool :=
  (m.tracks.get s).any fun t => t.isExpired m.conf.sweep now

/-- The number of sources of a system that have been silent too long. -/
def silent (m : Monitor) (now : Nat) (s : UInt8) : Nat :=
  (m.tracks.get s).elim 0 (Track.silent m.conf now)

/-- The number of silent sources **of the systems that have expired**. -/
def silentOfExpired (m : Monitor) (now : Nat) : Nat :=
  ((Slots.indices.filter (m.expired now)).map (m.silent now)).sum

section

variable (m : Monitor) (now : Nat) (s : UInt8)

/-- The size of a monitor is the number of systems that it knows. -/
theorem size_eq_countP : m.size = Slots.indices.countP m.knows := by
  rw [size, Slots.size, Slots.entries_eq, List.length_filterMap_eq_countP]
  rfl

/-- What a sweep counts for a system: itself if it expires, and its silent sources in any case. -/
theorem removed_eq : (m.tracks.get s).elim {} (Track.removed m.conf now) =
    ⟨if m.expired now s then 1 else 0, m.silent now s⟩ := by
  rw [expired, silent]
  cases m.tracks.get s with
  | none => rfl
  | some t => exact congrArg _ (t.sweep_fst m.conf now)

/-- **What becomes of a system** in a sweep: it is not known, or it expires and is forgotten, or it
remains and loses its silent sources. -/
theorem knows_cases :
    (m.knows s = false ∧ (m.sweep now).2.knows s = false ∧ m.expired now s = false ∧
      m.silent now s = 0) ∨
    (m.knows s = true ∧ (m.sweep now).2.knows s = false ∧ m.expired now s = true) ∨
    (m.knows s = true ∧ (m.sweep now).2.knows s = true ∧ m.expired now s = false ∧
      m.sourceCount s - (m.sweep now).2.sourceCount s = m.silent now s) := by
  simp only [knows, expired, silent, sourceCount, get_sweep]
  cases m.tracks.get s with
  | none => exact .inl ⟨rfl, rfl, rfl, rfl⟩
  | some t =>
      rw [Option.bind_some, Track.swept, Option.any_some]
      cases hexpired : t.isExpired m.conf.sweep now with
      | true => exact .inr (.inl ⟨rfl, rfl, rfl⟩)
      | false =>
          refine .inr (.inr ⟨rfl, rfl, rfl, ?_⟩)
          exact Nat.sub_eq_of_eq_add' (t.size_sources_sweep m.conf now).symm

/-! ### All systems -/

/-- A sweep counts the systems that it forgets. -/
theorem size_sweep : (m.sweep now).2.size + (m.sweep now).1.removedSystems = m.size := by
  rw [size_eq_countP, size_eq_countP, sweep_fst]
  induction Slots.indices with
  | nil => rfl
  | cons s ids ih =>
      rw [List.countP_cons, List.countP_cons, List.map_cons, SweepResult.total_cons, removed_eq,
        ← ih]
      obtain ⟨hknows, hafter, hexpired, -⟩ | ⟨hknows, hafter, hexpired⟩ |
        ⟨hknows, hafter, hexpired, -⟩ := m.knows_cases now s <;>
      simp only [hknows, hafter, hexpired, Bool.false_eq_true, if_true, if_false] <;> omega

/-- A sweep counts the sources that it drops from systems that remain, and the silent ones of the
systems that expire. -/
theorem removedSources_sweep :
    (m.sweep now).1.removedSources = m.dropped (m.sweep now).2 + m.silentOfExpired now := by
  rw [dropped, silentOfExpired, sweep_fst]
  induction Slots.indices with
  | nil => rfl
  | cons s ids ih =>
      rw [List.map_cons, SweepResult.total_cons, removed_eq, ih]
      dsimp only
      obtain ⟨-, hafter, hexpired, hsilent⟩ | ⟨-, hafter, hexpired⟩ |
        ⟨-, hafter, hexpired, hsilent⟩ := m.knows_cases now s
      · rw [List.filter_cons_of_neg (by rw [hafter]; decide),
          List.filter_cons_of_neg (by rw [hexpired]; decide), hsilent, Nat.zero_add]
      · rw [List.filter_cons_of_neg (by rw [hafter]; decide), List.filter_cons_of_pos hexpired,
          List.map_cons, List.sum_cons]
        omega
      · rw [List.filter_cons_of_pos hafter, List.filter_cons_of_neg (by rw [hexpired]; decide),
          List.map_cons, List.sum_cons, hsilent]
        omega

end

/-- **What a sweep counts.** The systems that are counted are those that are known no more. The
sources that are counted are those that have been dropped from systems that remain, and the silent
ones of the systems that are forgotten. So they are the former alone exactly if no system is
forgotten that has a silent source. A shared monitor counts the same. -/
theorem sweep_counts (m : Monitor) (now : Nat) :
    (m.sweep now).2.size + (m.sweep now).1.removedSystems = m.size ∧
      (m.sweep now).1.removedSources = m.dropped (m.sweep now).2 + m.silentOfExpired now ∧
      ((m.sweep now).1.removedSources = m.dropped (m.sweep now).2 ↔
        ∀ s, m.expired now s = true → m.silent now s = 0) ∧
      (SharedMonitor.new m.conf).sweep m.share now = ((m.sweep now).1, (m.sweep now).2.share) := by
  have hsources := m.removedSources_sweep now
  refine ⟨m.size_sweep now, hsources, ?_, SharedMonitor.sweep_share m now⟩
  have hzero : m.silentOfExpired now = 0 ↔ ∀ s, m.expired now s = true → m.silent now s = 0 := by
    simp only [silentOfExpired, List.sum_eq_zero_iff_forall_eq_nat, List.forall_mem_map,
      List.mem_filter, Slots.mem_indices, true_and]
  rw [← hzero, hsources]
  omega

/-- Where no system remains, no source has been dropped from one. -/
theorem dropped_of_size_eq_zero (m : Monitor) {later : Monitor} (h : later.size = 0) :
    m.dropped later = 0 := by
  rw [size_eq_countP, List.countP_eq_length_filter, List.length_eq_zero_iff] at h
  rw [dropped, h]
  rfl

end Monitor

/-- A monitor that has heard one frame. -/
def Sample.monitor : Monitor :=
  (Monitor.new {}).run [.frame (frame 1 7) "udp" 0]

/-- The only system is forgotten, with its only source. No system remains from which a source could
have been dropped, but a source is counted. -/
theorem Monitor.sweep_counts_forgotten :
    (Sample.monitor.sweep 601000000000).1.removedSystems = 1 ∧
      (Sample.monitor.sweep 601000000000).1.removedSources = 1 ∧
      (Sample.monitor.sweep 601000000000).2.size = 0 ∧
      Sample.monitor.dropped (Sample.monitor.sweep 601000000000).2 = 0 := by
  have hsystems : (Sample.monitor.sweep 601000000000).1.removedSystems = 1 := by decide +kernel
  have hsources : (Sample.monitor.sweep 601000000000).1.removedSources = 1 := by decide +kernel
  have hsize : (Sample.monitor.sweep 601000000000).2.size = 0 := by
    have hbefore : Sample.monitor.size = 1 := by decide +kernel
    have hafter := Sample.monitor.size_sweep 601000000000
    omega
  exact ⟨hsystems, hsources, hsize, dropped_of_size_eq_zero _ hsize⟩

end Mavlink
