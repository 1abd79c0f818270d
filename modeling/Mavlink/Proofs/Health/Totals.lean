import Mathlib.Algebra.GroupWithZero.Nat
import Mavlink.Proofs.Health.Track

/-!
# Totals over the sources

Each source of a track counts the frames that came over its stream. As long as no source is
forgotten, the sources share out the frames of a run among them.

## Main results

* `NameMap.sum_values_insert`: what setting one value does to a total over the values.
* `Track.total_step`, `Track.total_run`: what an event and a run add to a total over the sources.
* `Track.totals_run_new`: the sources of a system share out its frames.
-/

namespace Mavlink

/-! ### Totals over a map -/

namespace NameMap

variable {α : Type}

/-- Storing a value adds its figure to the sum and takes away that of the value that was stored
before. -/
theorem sum_insertEntry (g : α → Nat) (name : String) (value : α) {l : List (String × α)}
    (h : l.Pairwise fun x y => x.1 < y.1) :
    ((insertEntry name value l).map fun e => g e.2).sum + (lookup name l).elim 0 g =
      (l.map fun e => g e.2).sum + g value := by
  induction l with
  | nil => simp [insertEntry, lookup]
  | cons e rest ih =>
    obtain ⟨k, v⟩ := e
    obtain ⟨hk, hrest⟩ := List.pairwise_cons.1 h
    simp only [insertEntry]
    split
    · next hlt =>
      have hnone : lookup name ((k, v) :: rest) = none := lookup_eq_none_of_lt fun x hx => by
        rcases List.mem_cons.1 hx with rfl | hx
        · exact hlt
        · exact String.lt_trans hlt (hk x hx)
      rw [hnone, List.map_cons, List.sum_cons, Option.elim_none]
      exact (Nat.add_zero _).trans (Nat.add_comm _ _)
    · split
      · next heq =>
        simp only [lookup, heq, if_true, Option.elim_some, List.map_cons, List.sum_cons]
        omega
      · next hne =>
        have := ih hrest
        simp only [lookup, hne, if_false, List.map_cons, List.sum_cons]
        omega

/-- Setting the value at one name changes a total over the values by what the new value adds
instead of the old one. -/
theorem sum_values_insert (m : NameMap α) (g : α → Nat) (name : String) (value : α) :
    ((m.insert name value).values.map g).sum + (m.get? name).elim 0 g =
      (m.values.map g).sum + g value := by
  simp only [values, List.map_map]
  exact sum_insertEntry g name value m.ascending

end NameMap

/-! ### Figures of a source -/

/-- A figure of a source that grows by fixed amounts with each frame that may be used and with each
that may not, and that bookkeeping leaves alone. -/
structure Source.IsTally (figure : Source → Nat) (perFrame perInvalid : Nat) : Prop where
  new : ∀ streamId now, figure (Source.new streamId now) = 0
  packet : ∀ s, figure { s with packets := s.packets + 1 } = figure s + perFrame
  invalid : ∀ s, figure { s with invalid := s.invalid + 1 } = figure s + perInvalid
  lastSeen : ∀ s now, figure { s with lastSeen := now } = figure s
  lastAccepted : ∀ s sequence, figure { s with lastAccepted? := some sequence } = figure s
  promote : ∀ s now, figure (s.promote now) = figure s
  demote : ∀ s, figure s.demote = figure s

/-- Usable frames are tallied. -/
theorem Source.isTally_packets : Source.IsTally Source.packets 1 0 :=
  ⟨fun _ _ => rfl, fun _ => rfl, fun _ => rfl, fun _ _ => rfl, fun _ _ => rfl, fun _ _ => rfl,
    fun _ => rfl⟩

/-- Frames that may not be used are tallied. -/
theorem Source.isTally_invalid : Source.IsTally Source.invalid 0 1 :=
  ⟨fun _ _ => rfl, fun _ => rfl, fun _ => rfl, fun _ _ => rfl, fun _ _ => rfl, fun _ _ => rfl,
    fun _ => rfl⟩

namespace Track

/-- The total of a figure over the sources. -/
def total (t : Track) (figure : Source → Nat) : Nat :=
  (t.sources.values.map figure).sum

/-- How many sources an event forgets. -/
def forgotten (c : MonitorConf) (t : Track) : Event → Nat
  | .sweep now => (t.sweep c now).1
  | _ => 0

/-- No event of a run forgets a source. -/
def KeepsSources (c : MonitorConf) (t : Track) (events : List Event) : Prop :=
  ∀ x ∈ t.trace c events, x.1.forgotten c x.2 = 0

instance (c : MonitorConf) (t : Track) (events : List Event) :
    Decidable (t.KeepsSources c events) :=
  inferInstanceAs (Decidable (∀ x ∈ t.trace c events, _))

section Total

variable {figure : Source → Nat} {perFrame perInvalid : Nat}
  (hfigure : Source.IsTally figure perFrame perInvalid) (c : MonitorConf) (t : Track)

include hfigure

/-- Hearing a stream adds to the total what it adds to the source. -/
theorem total_hear (streamId : String) (now : Nat) {count : Source → Source} {more : Nat}
    (hcount : ∀ s, figure (count s) = figure s + more) :
    (t.hear streamId now count).total figure = t.total figure + more := by
  -- A stream that was not known has a source whose figure is zero, so it counts like no source.
  have hold : figure ((t.sources.get? streamId).getD (Source.new streamId now)) =
      (t.sources.get? streamId).elim 0 figure := by
    cases t.sources.get? streamId with
    | none => exact hfigure.new streamId now
    | some s => rfl
  have hinsert := t.sources.sum_values_insert figure streamId
    (count { (t.sources.get? streamId).getD (Source.new streamId now) with lastSeen := now })
  rw [hcount, hfigure.lastSeen, hold, Nat.add_comm _ more, ← Nat.add_assoc] at hinsert
  exact Nat.add_right_cancel hinsert

/-- A frame that becomes the head leaves the totals alone. -/
theorem total_accept (sequence : UInt8) (streamId : String) (now : Nat) :
    (t.accept sequence streamId now).total figure = t.total figure := by
  refine congrArg List.sum (t.sources.map_values_map fun name s => ?_)
  split
  · exact hfigure.lastAccepted s sequence
  · rfl

/-- An election leaves the totals alone. -/
theorem total_elect (streamId : String) (now : Nat) :
    (t.elect streamId now).total figure = t.total figure := by
  refine congrArg List.sum (t.sources.map_values_map fun name s => ?_)
  split
  · exact hfigure.promote s now
  · exact hfigure.demote s

/-- Arbitration leaves the totals alone. -/
theorem total_arbitrate (c : SequenceConf) (streamId : String) (now : Nat) :
    (t.arbitrate c streamId now).2.total figure = t.total figure := by
  obtain ⟨-, h⟩ | ⟨primary, -, -, h⟩ | ⟨primary, -, -, h⟩ := arbitrate_cases c t streamId now
  · rw [h]
    exact total_elect hfigure t streamId now
  · rw [h]
  · rw [h]
    rfl

/-- Numbering a frame adds to the total what each frame does. -/
theorem total_numbered (c : SequenceConf) (f : Frame) (streamId : String) (now : Nat) :
    (t.numbered c f streamId now).total figure = t.total figure + perFrame := by
  rw [← total_hear hfigure t streamId now hfigure.packet, total, sources_numbered]
  split
  · exact total_accept hfigure _ f.sequence streamId now
  · rfl

/-- A sweep that forgets no source leaves the totals alone. -/
theorem total_sweep {now : Nat} (hkeeps : t.forgotten c (.sweep now) = 0) :
    (t.sweep c now).2.total figure = t.total figure := by
  have hkept := NameMap.filter_eq_self_of_size_sub_eq_zero hkeeps
  simp only [sweep, hkept]
  split
  · rfl
  · exact congrArg List.sum (t.sources.map_values_map fun name s => hfigure.demote s)

/-- **What an event adds to a total** if it forgets no source. -/
theorem total_step {e : Event} (hkeeps : t.forgotten c e = 0) :
    (t.step c e).2.total figure =
      t.total figure + perFrame * frames [e] + perInvalid * rejected [e] := by
  cases e with
  | frame f streamId now =>
      have harbitrate := total_arbitrate hfigure (t.numbered c.sequence f streamId now) c.sequence
        streamId now
      rw [total_numbered hfigure] at harbitrate
      refine harbitrate.trans ?_
      show _ = t.total figure + perFrame * 1 + perInvalid * 0
      omega
  | invalid streamId now reason =>
      refine (total_hear hfigure t streamId now hfigure.invalid).trans ?_
      show _ = t.total figure + perFrame * 0 + perInvalid * 1
      omega
  | sweep now => exact total_sweep hfigure c t hkeeps

/-- **What a run adds to a total** while no source is forgotten. -/
theorem total_run {events : List Event} (hkeeps : t.KeepsSources c events) :
    (t.run c events).total figure =
      t.total figure + perFrame * frames events + perInvalid * rejected events := by
  induction events generalizing t with
  | nil => rfl
  | cons e events ih =>
      obtain ⟨hfirst, hrest⟩ := List.forall_mem_cons.1 hkeeps
      have hstep : (t.step c e).2.total figure =
          t.total figure + perFrame * frames [e] + perInvalid * rejected [e] :=
        total_step hfigure c t hfirst
      rw [run_cons, ih (t.step c e).2 hrest, hstep, frames_cons e events, rejected_cons e events,
        Nat.mul_add, Nat.mul_add]
      omega

end Total

/-- **The sources share out the frames among them** as long as no source is forgotten. -/
theorem totals_run_new (c : MonitorConf) (systemId : UInt8) {events : List Event}
    (hkeeps : (new systemId).KeepsSources c events) :
    ((new systemId).run c events).total Source.packets = frames events ∧
      ((new systemId).run c events).total Source.invalid = rejected events := by
  have hpackets := total_run Source.isTally_packets c (new systemId) hkeeps
  have hinvalid := total_run Source.isTally_invalid c (new systemId) hkeeps
  have hzero : ∀ figure, (new systemId).total figure = 0 := fun _ => rfl
  rw [hzero] at hpackets hinvalid
  exact ⟨by omega, by omega⟩

end Track

end Mavlink
