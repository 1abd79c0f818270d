import Mavlink.Proofs.Health.WellFormed

/-!
# The leading stream

A stream *leads* a track if its source bears the mark of the primary one. The lead is worth
something as long as the stream was heard within the window: then frames over other streams are
reported and leave the lead alone. Otherwise the next frame takes the lead, over whatever stream it
comes, and nothing is reported.

## Main results

* `Track.isLedBy_numbered_iff`: hearing a stream renews its lead and no other.
* `Track.observe_of_challenged`, `Track.observe_of_not_challenged`: what a frame finds and counts,
  and who leads after it, follow from the lead before it.
-/

namespace Mavlink

namespace Track

open Source (WellKept)

/-- A stream leads, and was last heard at a time. -/
def IsLedBy (t : Track) (streamId : String) (seen : Nat) : Prop :=
  ∃ s, t.sources.get? streamId = some s ∧ s.isPrimary = true ∧ s.lastSeen = seen

/-- Another stream leads, and was heard within the window. -/
def IsChallenged (t : Track) (streamId : String) (now window : Nat) : Prop :=
  ∃ leader seen, t.IsLedBy leader seen ∧ leader ≠ streamId ∧ seenWithin now seen window = true

/-- **There is one leader**, and one time at which it was last heard. -/
theorem IsLedBy.unique {t : Track} (h : WellKept t.sources) {streamId streamId' : String}
    {seen seen' : Nat} (hled : t.IsLedBy streamId seen) (hled' : t.IsLedBy streamId' seen') :
    streamId = streamId' ∧ seen = seen' := by
  obtain ⟨s, hs, hmark, rfl⟩ := hled
  obtain ⟨s', hs', hmark', rfl⟩ := hled'
  obtain rfl := h.unique streamId streamId' s s' hs hs' hmark hmark'
  obtain rfl := Option.some.inj (hs.symm.trans hs')
  exact ⟨rfl, rfl⟩

section

variable {t : Track} {now window : Nat}

/-- The active primary source leads, and was heard within the window. -/
theorem isLedBy_of_activePrimary? (h : WellKept t.sources) {primary : Source}
    (hprimary : t.activePrimary? now window = some primary) :
    t.IsLedBy primary.streamId primary.lastSeen ∧
      seenWithin now primary.lastSeen window = true := by
  obtain ⟨name, hname, hmark, hseen⟩ := exists_of_activePrimary? hprimary
  rw [← h.stored name primary hname] at hname
  exact ⟨⟨primary, hname, hmark, rfl⟩, hseen⟩

/-- A leader that was heard within the window is the active primary source. -/
theorem exists_activePrimary? (h : WellKept t.sources) {streamId : String} {seen : Nat}
    (hled : t.IsLedBy streamId seen) (hseen : seenWithin now seen window = true) :
    ∃ primary, t.activePrimary? now window = some primary ∧ primary.streamId = streamId := by
  have hsome : (t.activePrimary? now window).isSome = true := by
    obtain ⟨s, hs, hmark, rfl⟩ := hled
    exact List.find?_isSome.2
      ⟨s, NameMap.mem_values_iff.2 ⟨streamId, hs⟩, Bool.and_eq_true_iff.2 ⟨hmark, hseen⟩⟩
  obtain ⟨primary, hprimary⟩ := Option.isSome_iff_exists.1 hsome
  exact ⟨primary, hprimary, ((isLedBy_of_activePrimary? h hprimary).1.unique h hled).1⟩

end

/-! ### Taking in a frame -/

section

variable (c : SequenceConf) (t : Track) (f : Frame) (streamId : String) (now : Nat)

/-- Numbering a frame leaves the sources of other streams alone. -/
theorem get?_numbered_of_ne {name : String} (hne : name ≠ streamId) :
    (t.numbered c f streamId now).sources.get? name = t.sources.get? name := by
  rw [sources_numbered]
  dsimp only
  split
  · rw [accept, NameMap.get?_modify, if_neg hne, hear, NameMap.get?_insert, if_neg hne]
  · rw [hear, NameMap.get?_insert, if_neg hne]

/-- The source of the stream that a frame comes over is heard now, and keeps its mark. -/
theorem exists_get?_numbered :
    ∃ s, (t.numbered c f streamId now).sources.get? streamId = some s ∧ s.lastSeen = now ∧
      s.isPrimary = ((t.sources.get? streamId).getD (Source.new streamId now)).isPrimary := by
  rw [sources_numbered]
  dsimp only
  split
  · rw [accept, NameMap.get?_modify, if_pos rfl, hear, NameMap.get?_insert, if_pos rfl]
    exact ⟨_, rfl, rfl, rfl⟩
  · rw [hear, NameMap.get?_insert, if_pos rfl]
    exact ⟨_, rfl, rfl, rfl⟩

/-- **Hearing a stream** renews its lead, if it leads, and leaves another one's lead alone. -/
theorem isLedBy_numbered_iff {leader : String} {seen : Nat} :
    (t.numbered c f streamId now).IsLedBy leader seen ↔
      if leader = streamId then seen = now ∧ ∃ seen', t.IsLedBy streamId seen'
      else t.IsLedBy leader seen := by
  by_cases hsame : leader = streamId
  · subst hsame
    obtain ⟨s, hs, hseen, hmark⟩ := exists_get?_numbered c t f leader now
    rw [if_pos rfl]
    constructor
    · rintro ⟨s', hs', hmark', rfl⟩
      obtain rfl := Option.some.inj (hs.symm.trans hs')
      refine ⟨hseen, ?_⟩
      cases hold : t.sources.get? leader with
      | none =>
          rw [hold, hmark'] at hmark
          contradiction
      | some old =>
          rw [hold, hmark'] at hmark
          exact ⟨old.lastSeen, old, hold, hmark.symm, rfl⟩
    · rintro ⟨rfl, seen', old, hold, hmarkOld, -⟩
      rw [hold] at hmark
      exact ⟨s, hs, hmark.trans hmarkOld, hseen⟩
  · rw [if_neg hsame, IsLedBy, IsLedBy, get?_numbered_of_ne c t f streamId now hsame]

/-- An elected stream leads, and no other does. -/
theorem isLedBy_elect_iff {t : Track} (h : WellKept t.sources) {streamId : String} {now : Nat}
    (hheard : ∃ s, t.sources.get? streamId = some s ∧ s.lastSeen = now) {leader : String}
    {seen : Nat} :
    (t.elect streamId now).IsLedBy leader seen ↔ leader = streamId ∧ seen = now := by
  obtain ⟨s, hs, rfl⟩ := hheard
  have hled : (t.elect streamId s.lastSeen).IsLedBy streamId s.lastSeen :=
    ⟨_, get?_elect_self h streamId s.lastSeen hs, rfl, rfl⟩
  constructor
  · exact fun hleader => hleader.unique (wellKept_elect h streamId s.lastSeen) hled
  · rintro ⟨rfl, rfl⟩
    exact hled

/-- What a frame finds, counts and changes is what arbitration makes of the track in which the
frame is numbered. -/
theorem observe_eq :
    t.observe c f streamId now =
      ((t.arrival c f now).findings f.sequence ++
          ((t.numbered c f streamId now).arbitrate c streamId now).1,
        ((t.numbered c f streamId now).arbitrate c streamId now).2) :=
  rfl

/-- Numbering a frame counts its arrival. -/
theorem counters_numbered :
    (t.numbered c f streamId now).counters = t.counters.arrive (t.arrival c f now) :=
  congrArg counters (numbered_eq c t f streamId now)

/-- The lead of another stream is not touched by hearing a stream. -/
theorem isChallenged_numbered_iff {window : Nat} :
    (t.numbered c f streamId now).IsChallenged streamId now window ↔
      t.IsChallenged streamId now window := by
  refine exists_congr fun leader => exists_congr fun seen => and_congr_left fun h => ?_
  rw [isLedBy_numbered_iff, if_neg h.1]

end

section

variable {c : SequenceConf} {t : Track} {f : Frame} {streamId : String} {now : Nat}

/-- **A frame while another stream leads** is reported with that stream, counted, and leaves the
lead alone. -/
theorem observe_of_challenged (h : WellKept t.sources) {leader : String} {seen : Nat}
    (hled : t.IsLedBy leader seen) (hne : leader ≠ streamId)
    (hseen : seenWithin now seen c.multiSourceWindow = true) :
    (t.observe c f streamId now).1 =
        (t.arrival c f now).findings f.sequence ++ [.multiSource leader] ∧
      (t.observe c f streamId now).2.counters =
        (t.counters.arrive (t.arrival c f now)).crossStream ∧
      ∀ leader' seen', (t.observe c f streamId now).2.IsLedBy leader' seen' ↔
        leader' = leader ∧ seen' = seen := by
  have hkept := wellKept_numbered h streamId now c f
  have hstill : (t.numbered c f streamId now).IsLedBy leader seen := by
    rwa [isLedBy_numbered_iff, if_neg hne]
  obtain ⟨primary, hprimary, rfl⟩ := exists_activePrimary? hkept hstill hseen
  have harbitrate : (t.numbered c f streamId now).arbitrate c streamId now =
      ([.multiSource primary.streamId], { t.numbered c f streamId now with
        counters := (t.numbered c f streamId now).counters.crossStream }) := by
    rw [arbitrate, hprimary]
    exact if_neg hne
  rw [observe_eq, harbitrate, counters_numbered]
  refine ⟨rfl, rfl, fun leader' seen' => ⟨fun hled' => ?_, ?_⟩⟩
  · exact IsLedBy.unique hkept hled' hstill
  · rintro ⟨rfl, rfl⟩
    exact hstill

/-- **A frame while no other stream leads** takes or renews the lead, and nothing is reported of its
stream. -/
theorem observe_of_not_challenged (h : WellKept t.sources)
    (hfree : ¬ t.IsChallenged streamId now c.multiSourceWindow) :
    (t.observe c f streamId now).1 = (t.arrival c f now).findings f.sequence ∧
      (t.observe c f streamId now).2.counters = t.counters.arrive (t.arrival c f now) ∧
      ∀ leader seen, (t.observe c f streamId now).2.IsLedBy leader seen ↔
        leader = streamId ∧ seen = now := by
  have hkept := wellKept_numbered h streamId now c f
  rw [observe_eq, ← counters_numbered c t f streamId now]
  obtain ⟨-, heq⟩ | ⟨primary, hprimary, rfl, heq⟩ | ⟨primary, hprimary, hne, -⟩ :=
    arbitrate_cases c (t.numbered c f streamId now) streamId now
  · rw [heq]
    refine ⟨List.append_nil _, rfl, fun leader seen => ?_⟩
    exact isLedBy_elect_iff hkept (exists_source_numbered c t f streamId now)
  · obtain ⟨hled, -⟩ := isLedBy_of_activePrimary? hkept hprimary
    have hnow := hled
    rw [isLedBy_numbered_iff, if_pos rfl] at hnow
    rw [hnow.1] at hled
    rw [heq]
    refine ⟨List.append_nil _, rfl, fun leader seen => ⟨fun hled' => ?_, ?_⟩⟩
    · exact hled'.unique hkept hled
    · rintro ⟨rfl, rfl⟩
      exact hled
  · obtain ⟨hled, hseen⟩ := isLedBy_of_activePrimary? hkept hprimary
    have hchallenged : (t.numbered c f streamId now).IsChallenged streamId now
        c.multiSourceWindow := ⟨_, _, hled, hne, hseen⟩
    exact absurd ((isChallenged_numbered_iff c t f streamId now).1 hchallenged) hfree

end

end Track

end Mavlink
