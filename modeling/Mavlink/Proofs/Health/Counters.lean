import Mathlib.Algebra.GroupWithZero.Nat
import Mathlib.Data.List.Basic
import Mavlink.Proofs.Health.Track

/-!
# What a track counts

A track counts what it finds in other places than where it finds it. This module shows that the two
agree over every run, and that what is reported is what is found.

## Main results

* `Track.counts_step`, `Track.counts_run`: what an event and a run add to the counters.
* `Track.numberOf_detections`, `Track.details_detections`: the detections report the findings.
-/

namespace Mavlink

/-! ### What is counted -/

namespace Finding

/-- The number of frames that the finding reports as lost, if it reports any. -/
def lost? : Finding → Option Nat
  | gap lost => some lost
  | _ => none

/-- How many frames the findings report as lost. -/
def totalLost (findings : List Finding) : Nat :=
  (findings.filterMap lost?).sum

/-- Losses add up over findings. -/
theorem totalLost_append (findings findings' : List Finding) :
    totalLost (findings ++ findings') = totalLost findings + totalLost findings' := by
  rw [totalLost, List.filterMap_append, List.sum_append]
  rfl

/-- How many findings are of a kind. -/
def numberOf (kind : DetectionKind) (findings : List Finding) : Nat :=
  findings.countP fun x => x.kind = kind

/-- The findings of a kind are counted one list after the other. -/
theorem numberOf_append (kind : DetectionKind) (findings findings' : List Finding) :
    numberOf kind (findings ++ findings') = numberOf kind findings + numberOf kind findings' :=
  List.countP_append

end Finding

namespace Detection

/-- How many detections are of a kind. -/
def numberOf (kind : DetectionKind) (reports : List Detection) : Nat :=
  reports.countP fun d => d.kind = kind

/-- The detections of a kind are counted one list after the other. -/
theorem numberOf_append (kind : DetectionKind) (reports reports' : List Detection) :
    numberOf kind (reports ++ reports') = numberOf kind reports + numberOf kind reports' :=
  List.countP_append

/-- How many detections say why a frame does not move the head. -/
def numberHeld (reports : List Detection) : Nat :=
  numberOf .duplicate reports + numberOf .conflict reports + numberOf .reorder reports +
    numberOf .suspiciousBackward reports

/-- The detections of frames that do not move the head are counted one list after the other. -/
theorem numberHeld_append (reports reports' : List Detection) :
    numberHeld (reports ++ reports') = numberHeld reports + numberHeld reports' := by
  simp only [numberHeld, numberOf_append]
  omega

end Detection

namespace Counters

/-- How often a kind of detections was counted. Conflicts are not counted. -/
def count? (n : Counters) : DetectionKind → Option Nat
  | .duplicate => some n.duplicates
  | .gap => some n.gaps
  | .reorder => some n.reorders
  | .conflict => none
  | .suspiciousBackward => some n.suspiciousBackwards
  | .resetSuspected => some n.resetsSuspected
  | .multiSource => some n.multiSourceActive
  | .frameInvalid => some n.invalidFrames

/-- The counters `n'` are those of `n` after some findings. -/
structure Counts (n : Counters) (findings : List Finding) (n' : Counters) : Prop where
  count?_eq : ∀ kind, n'.count? kind = (n.count? kind).map (· + Finding.numberOf kind findings)
  lostPackets_eq : n'.lostPackets = n.lostPackets + Finding.totalLost findings

/-- Without findings the counters stay as they are. -/
theorem counts_nil (n : Counters) : n.Counts [] n where
  count?_eq kind := by
    cases n.count? kind <;> rfl
  lostPackets_eq := rfl

/-- Counters after some findings and then others are the counters after both. -/
theorem Counts.append {n n' n'' : Counters} {findings findings' : List Finding}
    (h : n.Counts findings n') (h' : n'.Counts findings' n'') :
    n.Counts (findings ++ findings') n'' where
  count?_eq kind := by
    rw [h'.count?_eq, h.count?_eq, Option.map_map, Finding.numberOf_append]
    exact congrArg (Option.map · (n.count? kind)) (funext fun count => Nat.add_assoc count _ _)
  lostPackets_eq := by
    rw [h'.lostPackets_eq, h.lostPackets_eq, Finding.totalLost_append, Nat.add_assoc]

/-- What is counted of an arrival is what is found about it. -/
theorem counts_arrive (n : Counters) (a : Arrival) (sequence : UInt8) :
    n.Counts (a.findings sequence) (n.arrive a) := by
  cases a with
  | first => exact counts_nil n
  | ahead lost =>
      by_cases hlost : lost = 0
      · rw [Arrival.findings, arrive, if_pos hlost, if_pos hlost]
        exact counts_nil n
      · rw [Arrival.findings, arrive, if_neg hlost, if_neg hlost]
        exact ⟨fun kind => by cases kind <;> rfl, rfl⟩
  | duplicate | conflict _ | late _ => exact ⟨fun kind => by cases kind <;> rfl, rfl⟩
  | backward back alarming restartedFrom? =>
      cases restartedFrom? <;> exact ⟨fun kind => by cases kind <;> rfl, rfl⟩

/-- A frame that comes over another stream than the primary one is counted as found. -/
theorem counts_crossStream (n : Counters) (primary : String) :
    n.Counts [.multiSource primary] n.crossStream :=
  ⟨fun kind => by cases kind <;> rfl, rfl⟩

/-- A frame that may not be used is counted as found. -/
theorem counts_reject (n : Counters) (reason : FailureReason) :
    n.Counts [.frameInvalid reason] n.reject :=
  ⟨fun kind => by cases kind <;> rfl, rfl⟩

end Counters

namespace Track

/-! ### Counters over a run -/

/-- What a run finds. -/
def findings (c : MonitorConf) (t : Track) (events : List Event) : List Finding :=
  (t.trace c events).flatMap fun (t, e) => (t.step c e).1

/-- A run finds what its first event finds, and then what the others find. -/
theorem findings_cons (c : MonitorConf) (t : Track) (e : Event) (events : List Event) :
    t.findings c (e :: events) = (t.step c e).1 ++ (t.step c e).2.findings c events :=
  rfl

/-- Arbitration counts what it finds. -/
theorem counts_arbitrate (c : SequenceConf) (t : Track) (streamId : String) (now : Nat) :
    t.counters.Counts (t.arbitrate c streamId now).1 (t.arbitrate c streamId now).2.counters := by
  obtain ⟨-, h⟩ | ⟨primary, -, -, h⟩ | ⟨primary, -, -, h⟩ := arbitrate_cases c t streamId now
  · rw [h]
    exact t.counters.counts_nil
  · rw [h]
    exact t.counters.counts_nil
  · rw [h]
    exact t.counters.counts_crossStream primary.streamId

/-- **What an event adds to the counters.** -/
theorem counts_step (c : MonitorConf) (t : Track) (e : Event) :
    t.counters.Counts (t.step c e).1 (t.step c e).2.counters := by
  cases e with
  | frame f streamId now =>
      have harrive := t.counters.counts_arrive (t.arrival c.sequence f now) f.sequence
      have hcounters : (t.numbered c.sequence f streamId now).counters =
          t.counters.arrive (t.arrival c.sequence f now) :=
        congrArg counters (numbered_eq c.sequence t f streamId now)
      rw [← hcounters] at harrive
      exact harrive.append (counts_arbitrate c.sequence (t.numbered c.sequence f streamId now)
        streamId now)
  | invalid streamId now reason => exact t.counters.counts_reject reason
  | sweep now => exact t.counters.counts_nil

/-- **What a run adds to the counters.** -/
theorem counts_run (c : MonitorConf) (t : Track) (events : List Event) :
    t.counters.Counts (t.findings c events) (t.run c events).counters := by
  induction events generalizing t with
  | nil => exact t.counters.counts_nil
  | cons e events ih => exact (counts_step c t e).append (ih (t.step c e).2)

/-! ### Detections and findings -/

/-- The detections that an event yields report what it finds. -/
theorem numberOf_detect (c : MonitorConf) (t : Track) (e : Event) (kind : DetectionKind) :
    Detection.numberOf kind (t.detect c e) = Finding.numberOf kind (t.step c e).1 := by
  cases e with
  | frame f streamId now | invalid streamId now reason => exact List.countP_map
  | sweep now => rfl

/-- The detections of a run report what it finds. -/
theorem numberOf_detections (c : MonitorConf) (t : Track) (events : List Event)
    (kind : DetectionKind) :
    Detection.numberOf kind (t.detections c events) =
      Finding.numberOf kind (t.findings c events) := by
  rw [Detection.numberOf, Finding.numberOf, detections, findings, List.countP_flatMap,
    List.countP_flatMap]
  exact congrArg List.sum (List.map_congr_left fun x _ => numberOf_detect c x.1 x.2 kind)

/-- The gaps that are reported name the numbers of lost frames that were found. -/
theorem details_map_report (findings : List Finding) (systemId : UInt8) (streamId : String)
    (time : Nat) :
    ((findings.map (Finding.report systemId streamId time)).filter fun d => d.kind = .gap).map
        Detection.details =
      (findings.filterMap Finding.lost?).map fun lost => "lost=" ++ toString lost := by
  induction findings with
  | nil => rfl
  | cons x findings ih =>
      cases x with
      | gap lost => exact congrArg (("lost=" ++ toString lost) :: ·) ih
      | _ => exact ih

/-- The gaps that a run reports name the numbers of lost frames that it finds. -/
theorem details_detections (c : MonitorConf) (t : Track) (events : List Event) :
    ((t.detections c events).filter fun d => d.kind = .gap).map Detection.details =
      ((t.findings c events).filterMap Finding.lost?).map fun lost => "lost=" ++ toString lost := by
  rw [detections, findings, List.filter_flatMap, List.map_flatMap, List.filterMap_flatMap,
    List.map_flatMap]
  refine List.flatMap_congr fun x _ => ?_
  obtain ⟨t, e⟩ := x
  cases e with
  | frame f streamId now | invalid streamId now reason => exact details_map_report _ _ _ _
  | sweep now => rfl

end Track

end Mavlink
