import Mavlink.Proofs.Health.Primary
import Mavlink.Proofs.Health.SweepCounts

/-!
# What a sweep leaves

A sweep applies three rules at once. A system is forgotten if it has been silent too long, and so is
a source of a system that remains; what was heard at a later time than the sweep's has not been
silent at all. The mark of the primary stream lasts if its source is kept and was heard within the
window, and otherwise every mark is taken away. Nothing else changes, so there is nothing left to do
for a second sweep at the same time.

## Main results

* `Track.isLeftBySweep_sweep`: what a sweep leaves of a system that remains.
* `Track.sweep_sweep`: a second sweep finds nothing to forget.
* `Monitor.sweep_run`: both for all systems that a monitor knows.
-/

namespace Mavlink

/-! ### The three rules -/

/-- A source has been silent too long. -/
def Source.HasExpired (c : SweepConf) (now : Nat) (s : Source) : Prop :=
  s.lastSeen ≤ now ∧ c.sourceLifetime < now - s.lastSeen

/-- A primary source that stays primary: it is kept, and was heard within the window. -/
def Source.KeepsMark (c : MonitorConf) (now : Nat) (s : Source) : Prop :=
  ¬ s.HasExpired c.sweep now ∧ s.lastSeen ≤ now ∧
    now - s.lastSeen ≤ c.sequence.multiSourceWindow

/-- A system has been silent too long. -/
def Track.HasExpired (c : SweepConf) (now : Nat) (t : Track) : Prop :=
  t.lastActivity ≤ now ∧ c.systemLifetime < now - t.lastActivity

/-- What a sweep asks of a source is whether it has been silent too long. -/
theorem Source.hasExpired_iff {c : SweepConf} {now : Nat} {s : Source} :
    s.HasExpired c now ↔ olderThan now s.lastSeen c.sourceLifetime = true := by
  rw [HasExpired, olderThan_iff]
  omega

namespace Track

open Source (WellKept)

/-- What a sweep asks of a system is whether it has been silent too long. -/
theorem hasExpired_iff {c : SweepConf} {now : Nat} {t : Track} :
    t.HasExpired c now ↔ t.isExpired c now = true := by
  rw [HasExpired, isExpired, olderThan_iff]
  omega

/-- **What a sweep leaves of a system** that remains. -/
structure IsLeftBySweep (c : MonitorConf) (now : Nat) (t t' : Track) : Prop where
  systemId_eq : t'.systemId = t.systemId
  head?_eq : t'.head? = t.head?
  ring_eq : t'.ring = t.ring
  lastActivity_eq : t'.lastActivity = t.lastActivity
  counters_eq : t'.counters = t.counters
  /-- A stream has a source exactly if it had one that has not been silent too long. -/
  isSome_iff : ∀ name, (t'.sources.get? name).isSome = true ↔
    ∃ s, t.sources.get? name = some s ∧ ¬ s.HasExpired c.sweep now
  /-- Of a source that is kept, nothing changes but the mark. -/
  source_eq : ∀ name s s', t.sources.get? name = some s → t'.sources.get? name = some s' →
    s' = { s with isPrimary := s'.isPrimary, primarySince? := s'.primarySince? }
  /-- The primary source stays primary, since when it was, exactly if it is kept and was heard
  within the window. -/
  mark_eq_iff : ∀ name s, t.sources.get? name = some s → s.isPrimary = true →
    (t'.mark name = (true, s.primarySince?) ↔ s.KeepsMark c now)
  /-- If it does not stay primary, all marks are taken away. -/
  cleared : ∀ name s, t.sources.get? name = some s → s.isPrimary = true → ¬ s.KeepsMark c now →
    ∀ name', t'.mark name' = (false, none)
  /-- No stream gets the mark. -/
  unmarked : ∀ name, t.mark name = (false, none) → t'.mark name = (false, none)

section

variable {c : MonitorConf} {t : Track} {now : Nat}

/-- **The sources after a sweep** are those that have not been silent too long, without their marks
unless the lead lasts. -/
theorem get?_sweep_eq_some_iff {name : String} {s' : Source} :
    (t.sweep c now).2.sources.get? name = some s' ↔
      ∃ s, t.sources.get? name = some s ∧ ¬ s.HasExpired c.sweep now ∧
        (if t.leadLasts c now then s else s.demote) = s' := by
  have hkeep : ∀ s : Source, (!olderThan now s.lastSeen c.sweep.sourceLifetime) = true ↔
      ¬ s.HasExpired c.sweep now := fun s => by
    rw [Source.hasExpired_iff, Bool.not_eq_true', Bool.not_eq_true]
  simp only [get?_sweep, Option.map_eq_some_iff, Option.filter_eq_some_iff, hkeep, and_assoc]

/-- The lead lasts exactly if some primary source keeps its mark. -/
theorem leadLasts_iff : t.leadLasts c now = true ↔
    ∃ name s, t.sources.get? name = some s ∧ s.isPrimary = true ∧ s.KeepsMark c now := by
  simp only [leadLasts, List.any_eq_true, NameMap.mem_values_iff, NameMap.get?_filter,
    Option.filter_eq_some_iff, Source.isActivePrimary, Bool.and_eq_true, seenWithin_iff,
    Source.KeepsMark, Source.hasExpired_iff, Bool.not_eq_true', Bool.not_eq_true]
  constructor
  · rintro ⟨s, ⟨name, hs, hyoung⟩, hmark, hpast, hwithin⟩
    exact ⟨name, s, hs, hmark, hyoung, hpast, by omega⟩
  · rintro ⟨name, s, hs, hmark, hyoung, hpast, hwithin⟩
    exact ⟨s, ⟨name, hs, hyoung⟩, hmark, hpast, by omega⟩

/-- As at most one source is primary, the lead lasts exactly if that one keeps its mark. -/
theorem leadLasts_iff_keepsMark (h : WellKept t.sources) {name : String} {s : Source}
    (hs : t.sources.get? name = some s) (hmark : s.isPrimary = true) :
    t.leadLasts c now = true ↔ s.KeepsMark c now := by
  rw [leadLasts_iff]
  constructor
  · rintro ⟨name', s', hs', hmark', hkeeps⟩
    obtain rfl := h.unique name name' s s' hs hs' hmark hmark'
    obtain rfl := Option.some.inj (hs.symm.trans hs')
    exact hkeeps
  · exact fun hkeeps => ⟨name, s, hs, hmark, hkeeps⟩

/-- If the lead lasts, a stream that is kept has the mark that it had. -/
theorem mark_sweep_of_kept (hlasts : t.leadLasts c now = true) {name : String} {s : Source}
    (hs : t.sources.get? name = some s) (hkept : ¬ s.HasExpired c.sweep now) :
    (t.sweep c now).2.mark name = (s.isPrimary, s.primarySince?) := by
  rw [mark, get?_sweep_eq_some_iff.2 ⟨s, hs, hkept, if_pos hlasts⟩]
  rfl

/-- If the lead does not last, no stream has the mark. -/
theorem mark_sweep_of_not_leadLasts (hlost : ¬ t.leadLasts c now = true) (name : String) :
    (t.sweep c now).2.mark name = (false, none) := by
  rw [mark]
  cases hs' : (t.sweep c now).2.sources.get? name with
  | none => rfl
  | some s' =>
      obtain ⟨s, -, -, rfl⟩ := get?_sweep_eq_some_iff.1 hs'
      rw [if_neg hlost]
      rfl

/-- A sweep gives no stream the mark. -/
theorem mark_sweep_of_unmarked {name : String} (hmark : t.mark name = (false, none)) :
    (t.sweep c now).2.mark name = (false, none) := by
  cases hs' : (t.sweep c now).2.sources.get? name with
  | none => rw [mark, hs', Option.elim_none]
  | some s' =>
      obtain ⟨s, hs, hkept, -⟩ := get?_sweep_eq_some_iff.1 hs'
      by_cases hlasts : t.leadLasts c now = true
      · rw [mark, hs, Option.elim_some] at hmark
        rw [mark_sweep_of_kept hlasts hs hkept, hmark]
      · exact mark_sweep_of_not_leadLasts hlasts name

/-- A sweep does to a system that remains what the three rules say. -/
theorem isLeftBySweep_sweep (h : WellKept t.sources) : IsLeftBySweep c now t (t.sweep c now).2 where
  systemId_eq := rfl
  head?_eq := rfl
  ring_eq := rfl
  lastActivity_eq := rfl
  counters_eq := rfl
  isSome_iff name := by
    rw [Option.isSome_iff_exists]
    simp only [get?_sweep_eq_some_iff]
    constructor
    · rintro ⟨-, s, hs, hkept, -⟩
      exact ⟨s, hs, hkept⟩
    · rintro ⟨s, hs, hkept⟩
      exact ⟨_, s, hs, hkept, rfl⟩
  source_eq name s s' hs hs' := by
    obtain ⟨s₁, hs₁, -, rfl⟩ := get?_sweep_eq_some_iff.1 hs'
    obtain rfl := Option.some.inj (hs.symm.trans hs₁)
    split <;> rfl
  mark_eq_iff name s hs hmark := by
    rw [← leadLasts_iff_keepsMark h hs hmark]
    constructor
    · intro hmark'
      by_contra hlost
      rw [mark_sweep_of_not_leadLasts hlost] at hmark'
      exact Bool.false_ne_true (congrArg Prod.fst hmark')
    · intro hlasts
      have hkept := ((leadLasts_iff_keepsMark h hs hmark).1 hlasts).1
      rw [mark_sweep_of_kept hlasts hs hkept, hmark]
  cleared name s hs hmark hlost :=
    mark_sweep_of_not_leadLasts (mt (leadLasts_iff_keepsMark h hs hmark).1 hlost)
  unmarked name := mark_sweep_of_unmarked

/-! ### A second sweep -/

/-- The lead lasts in a second sweep exactly if it did in the first one. -/
theorem leadLasts_sweep :
    (t.sweep c now).2.leadLasts c now = t.leadLasts c now := by
  rw [Bool.eq_iff_iff, leadLasts_iff]
  constructor
  · rintro ⟨name, s', hs', hmark, -⟩
    obtain ⟨s, hs, -, rfl⟩ := get?_sweep_eq_some_iff.1 hs'
    by_contra hlost
    rw [if_neg hlost] at hmark
    contradiction
  · intro hlasts
    obtain ⟨name, s, hs, hmark, hkeeps⟩ := leadLasts_iff.1 hlasts
    exact ⟨name, s, get?_sweep_eq_some_iff.2 ⟨s, hs, hkeeps.1, if_pos hlasts⟩, hmark, hkeeps⟩

/-- What a sweep leaves is neither silent nor to be stripped of its mark. -/
theorem settled_of_get?_sweep {name : String} {s' : Source}
    (h : (t.sweep c now).2.sources.get? name = some s') :
    ¬ s'.HasExpired c.sweep now ∧ (if t.leadLasts c now then s' else s'.demote) = s' := by
  obtain ⟨s, -, hkept, rfl⟩ := get?_sweep_eq_some_iff.1 h
  split
  · exact ⟨hkept, rfl⟩
  · exact ⟨hkept, rfl⟩

/-- **A second sweep finds nothing to forget**: no source is silent any more, and the lead lasts or
is lost already. -/
theorem sweep_sweep : (t.sweep c now).2.sweep c now = (0, (t.sweep c now).2) := by
  have hcount : ((t.sweep c now).2.sweep c now).1 = 0 := by
    rw [sweep_fst, silent, List.countP_eq_zero]
    intro s' hs'
    obtain ⟨name, hname⟩ := NameMap.mem_values_iff.1 hs'
    exact mt Source.hasExpired_iff.2 (settled_of_get?_sweep hname).1
  have hsources : ((t.sweep c now).2.sweep c now).2.sources = (t.sweep c now).2.sources := by
    refine NameMap.ext_get? fun name => ?_
    cases hs' : (t.sweep c now).2.sources.get? name with
    | none => rw [get?_sweep, hs', Option.filter_none, Option.map_none]
    | some s' =>
        obtain ⟨hkept, hmark⟩ := settled_of_get?_sweep hs'
        refine get?_sweep_eq_some_iff.2 ⟨s', hs', hkept, ?_⟩
        rwa [leadLasts_sweep]
  have htrack : ((t.sweep c now).2.sweep c now).2 = { (t.sweep c now).2 with
      sources := ((t.sweep c now).2.sweep c now).2.sources } := rfl
  exact Prod.ext hcount (by rw [htrack, hsources])

end

end Track

/-! ### All systems -/

/-- Sweeps that have forgotten nothing have forgotten nothing together. -/
theorem SweepResult.total_eq_empty {results : List SweepResult} (h : ∀ r ∈ results, r = {}) :
    total results = {} := by
  induction results with
  | nil => rfl
  | cons r results ih =>
      obtain ⟨rfl, hrest⟩ := List.forall_mem_cons.1 h
      rw [total_cons_empty, ih hrest]

namespace Monitor

section

variable {m : Monitor} {now : Nat} {s : UInt8}

/-- A system that is known has the track that a frame of it finds. -/
theorem get_of_knows (h : m.knows s = true) : m.tracks.get s = some (m.track s) := by
  obtain ⟨t, ht⟩ := Option.isSome_iff_exists.1 h
  rw [track, ht, Option.getD_some]

/-- A system remains exactly if it has not been silent too long. -/
theorem get_sweep_eq_some_iff {t' : Track} :
    (m.sweep now).2.tracks.get s = some t' ↔
      ∃ t, m.tracks.get s = some t ∧ ¬ t.HasExpired m.conf.sweep now ∧
        (t.sweep m.conf now).2 = t' := by
  rw [get_sweep, Option.bind_eq_some_iff]
  refine exists_congr fun t => and_congr_right fun _ => ?_
  rw [Track.swept, Track.hasExpired_iff]
  split
  · next hexpired => simp [hexpired]
  · next hexpired => simp [hexpired]

/-- What a second sweep leaves of a system is what it finds. -/
theorem swept_of_get_sweep {t' : Track} (h : (m.sweep now).2.tracks.get s = some t') :
    Track.removed m.conf now t' = {} ∧ Track.swept m.conf now t' = some t' := by
  obtain ⟨t, -, hkept, rfl⟩ := get_sweep_eq_some_iff.1 h
  rw [Track.hasExpired_iff, ← Track.isExpired_sweep m.conf m.conf.sweep t now now] at hkept
  rw [Track.removed, Track.swept, if_neg hkept, if_neg hkept, Track.sweep_sweep]
  exact ⟨rfl, rfl⟩

end

/-- A second sweep at the same time counts nothing and changes nothing. -/
theorem sweep_sweep (m : Monitor) (now : Nat) :
    (m.sweep now).2.sweep now = ({}, (m.sweep now).2) := by
  refine Prod.ext ?_ (ext_get rfl fun s => ?_)
  · rw [sweep_fst]
    refine SweepResult.total_eq_empty (List.forall_mem_map.2 fun s _ => ?_)
    cases htrack : (m.sweep now).2.tracks.get s with
    | none => rfl
    | some t' => exact (swept_of_get_sweep htrack).1
  · rw [get_sweep]
    cases htrack : (m.sweep now).2.tracks.get s with
    | none => rfl
    | some t' => exact (swept_of_get_sweep htrack).2

/-- **A sweep forgets what has expired**, and nothing else. After any events, and for any time:

* a system remains exactly if it was known and has not been silent too long;
* what is left of a system that remains is what the rules for sources and marks say;
* a second sweep at the same time counts nothing and changes nothing;
* a shared monitor does the same. -/
theorem sweep_run (conf : MonitorConf) (events : List Event) (now : Nat) :
    let m := (new conf).run events
    let m' := (m.sweep now).2
    (∀ s, (m'.tracks.get s).isSome = true ↔
      ∃ t, m.tracks.get s = some t ∧ ¬ t.HasExpired conf.sweep now) ∧
    (∀ s t t', m.tracks.get s = some t → m'.tracks.get s = some t' →
      Track.IsLeftBySweep conf now t t') ∧
    m'.conf = conf ∧
    m'.sweep now = (⟨0, 0⟩, m') ∧
    (SharedMonitor.new conf).sweep m.share now = ((m.sweep now).1, m'.share) ∧
    (SharedMonitor.new conf).sweep m'.share now = (⟨0, 0⟩, m'.share) := by
  intro m m'
  have hconf : m.conf = conf := conf_run (new conf) events
  have hconf' : m'.conf = conf := hconf
  have hagain : m'.sweep now = ({}, m') := sweep_sweep m now
  refine ⟨fun s => ?_, fun s t t' ht ht' => ?_, hconf', hagain, ?_, ?_⟩
  · rw [Option.isSome_iff_exists]
    simp only [m', get_sweep_eq_some_iff, hconf]
    constructor
    · rintro ⟨-, t, ht, hkept, -⟩
      exact ⟨t, ht, hkept⟩
    · rintro ⟨t, ht, hkept⟩
      exact ⟨_, t, ht, hkept, rfl⟩
  · obtain ⟨t₁, ht₁, -, rfl⟩ := get_sweep_eq_some_iff.1 ht'
    obtain rfl := Option.some.inj (ht.symm.trans ht₁)
    rw [hconf]
    exact Track.isLeftBySweep_sweep (isWellFormed_of_get conf events ht).2.1.sources
  · have hshare := SharedMonitor.sweep_share m now
    rwa [hconf] at hshare
  · have hshare := SharedMonitor.sweep_share m' now
    rwa [hconf', hagain] at hshare

/-- The second stream took the lead from the first one. A sweep forgets the first stream, keeps the
second one, and takes the mark away from it, because it has been silent for a while. -/
theorem sweep_run_leadLost :
    let m := (new {}).run
      [.frame (Sample.frame 1 7) "udp" 0, .frame (Sample.frame 1 8) "tcp" 55000000000]
    let m' := (m.sweep 61000000000).2
    ∃ t t', m.tracks.get 1 = some t ∧ m'.tracks.get 1 = some t' ∧
      Track.IsLeftBySweep {} 61000000000 t t' ∧
      t.mark "tcp" = (true, some 55000000000) ∧ t'.mark "tcp" = (false, none) ∧
      (t'.sources.get? "udp").isSome = false ∧ (t'.sources.get? "tcp").isSome = true ∧
      m'.sweep 61000000000 = (⟨0, 0⟩, m') := by
  intro m m'
  obtain ⟨-, hleft, -, hagain, -, -⟩ := sweep_run {}
    [.frame (Sample.frame 1 7) "udp" 0, .frame (Sample.frame 1 8) "tcp" 55000000000] 61000000000
  have ht : m.tracks.get 1 = some (m.track 1) := get_of_knows (by decide +kernel)
  have ht' : m'.tracks.get 1 = some (m'.track 1) := get_of_knows (by decide +kernel)
  exact ⟨m.track 1, m'.track 1, ht, ht', hleft 1 _ _ ht ht', by decide +kernel, by decide +kernel,
    by decide +kernel, by decide +kernel, hagain⟩

end Monitor

end Mavlink
