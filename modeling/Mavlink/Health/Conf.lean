/-!
# Configuration of the stream monitor

Times are whole numbers of nanoseconds since an origin that the caller chooses; the monitor never
reads a clock. Observations need not come in the order of their times. Something that was seen at a
later time than the present one is not recent, and it is not old either.

## Main results

* `seenWithin_iff`, `olderThan_iff`: what the two comparisons of times say.
* `seenWithin_add`, `olderThan_add`: both look at the time between two events only.
-/

namespace Mavlink

/-- Whether something seen at `seen` was seen at most `window` before `now`. -/
def seenWithin (now seen window : Nat) : Bool :=
  seen ≤ now && now - seen ≤ window

/-- Whether something seen at `seen` was seen more than `age` before `now`. -/
def olderThan (now seen age : Nat) : Bool :=
  seen ≤ now && age < now - seen

/-- Within a window means not in the future and not before the window. -/
theorem seenWithin_iff {now seen window : Nat} :
    seenWithin now seen window = true ↔ seen ≤ now ∧ now ≤ seen + window := by
  simp only [seenWithin, Bool.and_eq_true, decide_eq_true_eq]
  omega

/-- Older than an age means that more time than this age has passed. -/
theorem olderThan_iff {now seen age : Nat} :
    olderThan now seen age = true ↔ seen + age < now := by
  simp only [olderThan, Bool.and_eq_true, decide_eq_true_eq]
  omega

/-- A common delay does not matter for a window. -/
@[simp] theorem seenWithin_add (now seen delay window : Nat) :
    seenWithin (now + delay) (seen + delay) window = seenWithin now seen window := by
  rw [Bool.eq_iff_iff, seenWithin_iff, seenWithin_iff]
  omega

/-- A common delay does not matter for an age. -/
@[simp] theorem olderThan_add (now seen delay age : Nat) :
    olderThan (now + delay) (seen + delay) age = olderThan now seen age := by
  rw [Bool.eq_iff_iff, olderThan_iff, olderThan_iff]
  omega

/-- How sequence numbers are judged. -/
structure SequenceConf where
  /-- How far back a late frame may be. -/
  reorderDistance : UInt8 := 20
  /-- How long after the head a late frame may arrive. -/
  reorderTime : Nat := 500000000
  /-- How long a repeated sequence number means a repeated frame. -/
  duplicateTime : Nat := 1000000000
  /-- How far back a frame has to be to be alarming. -/
  suspiciousDistance : UInt8 := 64
  /-- How long a stream that has fallen silent still counts as active. -/
  multiSourceWindow : Nat := 2000000000
  deriving DecidableEq, Repr

/-- When systems and sources are forgotten. -/
structure SweepConf where
  /-- How long a silent system is kept. -/
  systemLifetime : Nat := 600000000000
  /-- How long a silent source is kept. -/
  sourceLifetime : Nat := 60000000000
  deriving DecidableEq, Repr

/-- The configuration of a monitor. -/
structure MonitorConf where
  sequence : SequenceConf := {}
  sweep : SweepConf := {}
  deriving DecidableEq, Repr

end Mavlink
