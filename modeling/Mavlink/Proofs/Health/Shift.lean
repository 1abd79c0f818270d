import Mavlink.Proofs.Health.Track

/-!
# Shifted events

Sequence numbers are judged by their distances modulo 256, and times by the time between them. So a
track that takes in events with all numbers and all times shifted by fixed amounts goes through
shifted states, and finds the same. The one exception is the suspicion of a restart, which looks at
the numbers themselves: it may come or go if the numbers are shifted.

What a shift leaves alone apart from restarts is said by `Shift.Agree`: two values are equal if they
are *steadied*, that is, if what they say of restarts is dropped, and they are equal as they are if
the numbers are not shifted at all.

## Main results

* `Arrival.agree_classify`: a shifted frame arrives at a shifted track like the frame at the track.
* `Track.isShift_observe`, `Track.isShift_observeInvalid`, `Track.isShift_sweep`: each event takes
  tracks that are shifted against each other to tracks that are, and finds the same.
-/

namespace Mavlink

/-! ### Shifts -/

/-- A shift of sequence numbers, modulo 256, and of times. -/
structure Shift where
  turn : UInt8 := 0
  delay : Nat := 0

/-- Two values agree under a shift: they are equal when they are steadied, and they are equal as
they are if the shift leaves sequence numbers alone. -/
structure Shift.Agree {α : Type} (σ : Shift) (steady : α → α) (x x' : α) : Prop where
  steady_eq : steady x' = steady x
  eq_of_turn : σ.turn = 0 → x' = x

/-- Equal values agree under every shift. -/
theorem Shift.Agree.of_eq {α : Type} {σ : Shift} {steady : α → α} {x x' : α} (h : x' = x) :
    σ.Agree steady x x' :=
  ⟨congrArg steady h, fun _ => h⟩

/-- What depends on steadied values only agrees if the values do. -/
theorem Shift.Agree.map {α β : Type} {σ : Shift} {steady : α → α} {steady' : β → β} {x x' : α}
    (h : σ.Agree steady x x') {g : α → β} (hg : ∀ x, steady' (g x) = steady' (g (steady x))) :
    σ.Agree steady' (g x) (g x') where
  steady_eq := by rw [hg x', h.steady_eq, ← hg x]
  eq_of_turn hturn := congrArg g (h.eq_of_turn hturn)

section Shift

variable (σ : Shift)

/-- The frame with its sequence number shifted. -/
def Frame.shift (f : Frame) : Frame :=
  { f with sequence := f.sequence + σ.turn }

/-- Sequence numbers do not enter fingerprints. -/
theorem Frame.fingerprint_shift (f : Frame) : (f.shift σ).fingerprint = f.fingerprint :=
  rfl

/-- The head at a turned number and a later time. -/
def Head.shift (head : Head) : Head where
  sequence := head.sequence + σ.turn
  reachedAt := head.reachedAt + σ.delay

/-- The sighting of a turned number at a later time. -/
def Sighting.shift (s : Sighting) : Sighting :=
  { s with sequence := s.sequence + σ.turn, seenAt := s.seenAt + σ.delay }

/-- The source with its times later and the number that it was last accepted with turned. -/
def Source.shift (s : Source) : Source :=
  { s with
    lastSeen := s.lastSeen + σ.delay
    primarySince? := s.primarySince?.map (· + σ.delay)
    lastAccepted? := s.lastAccepted?.map (· + σ.turn) }

/-- The event at a later time, with the number of its frame turned. -/
def Track.Event.shift : Track.Event → Track.Event
  | .frame f streamId now => .frame (f.shift σ) streamId (now + σ.delay)
  | .invalid streamId now reason => .invalid streamId (now + σ.delay) reason
  | .sweep now => .sweep (now + σ.delay)

end Shift

/-- The finding with the sequence numbers that it quotes turned. -/
def Finding.turn (c : UInt8) : Finding → Finding
  | duplicate sequence => .duplicate (sequence + c)
  | conflict sequence previousStream => .conflict (sequence + c) previousStream
  | resetSuspected head sequence => .resetSuspected (head + c) (sequence + c)
  | x => x

/-- Turning the numbers of a finding keeps its kind. -/
theorem Finding.kind_turn (c : UInt8) (x : Finding) : (x.turn c).kind = x.kind := by
  cases x <;> rfl

/-- Turning by zero leaves a finding as it is. -/
theorem Finding.turn_zero (x : Finding) : x.turn 0 = x := by
  cases x <;> simp [turn]

/-- Turning by zero leaves findings as they are. -/
theorem Finding.map_turn_zero (xs : List Finding) : xs.map (turn 0) = xs :=
  (List.map_congr_left fun x _ => turn_zero x).trans xs.map_id

/-! ### What is steady -/

/-- The arrival without the suspicion of a restart. -/
def Arrival.steady : Arrival → Arrival
  | backward back alarming _ => .backward back alarming none
  | a => a

/-- The findings without suspicions of restarts. -/
def Finding.steady (xs : List Finding) : List Finding :=
  xs.filter fun x => x.kind ≠ .resetSuspected

/-- The counters without the count of suspected restarts. -/
def Counters.steady (n : Counters) : Counters :=
  { n with resetsSuspected := 0 }

/-- Findings are steadied one list after the other. -/
theorem Finding.steady_append (xs ys : List Finding) :
    steady (xs ++ ys) = steady xs ++ steady ys :=
  List.filter_append xs ys

/-- Findings can be steadied before their numbers are turned or after. -/
theorem Finding.steady_map_turn (c : UInt8) (xs : List Finding) :
    steady (xs.map (turn c)) = (steady xs).map (turn c) := by
  rw [steady, List.filter_map]
  refine congrArg _ (List.filter_congr fun x _ => ?_)
  rw [Function.comp_apply, kind_turn]

namespace Arrival

/-- Whether a frame becomes the head does not depend on the suspicion of a restart. -/
theorem isAccepted_steady (a : Arrival) : a.steady.isAccepted = a.isAccepted := by
  cases a <;> rfl

/-- The findings about an arrival are steadied by steadying the arrival. -/
theorem steady_findings (a : Arrival) (sequence : UInt8) :
    Finding.steady (a.findings sequence) = Finding.steady (a.steady.findings sequence) := by
  cases a with
  | backward back alarming restartedFrom? => cases restartedFrom? <;> rfl
  | first | ahead _ | duplicate | conflict _ | late _ => rfl

/-- The findings about an arrival quote the sequence number. -/
theorem findings_turn (a : Arrival) (sequence c : UInt8) :
    Finding.steady (a.findings (sequence + c)) =
      (Finding.steady (a.findings sequence)).map (Finding.turn c) := by
  cases a with
  | ahead lost =>
      by_cases hlost : lost = 0
      · rw [findings, findings, if_pos hlost]
        rfl
      · rw [findings, findings, if_neg hlost]
        rfl
  | backward back alarming restartedFrom? => cases restartedFrom? <;> rfl
  | first | duplicate | conflict _ | late _ => rfl

end Arrival

/-- Steadied counters depend on steadied counters and arrivals only. -/
theorem Counters.steady_arrive (n : Counters) (a : Arrival) :
    (n.arrive a).steady = (n.steady.arrive a.steady).steady := by
  cases a with
  | ahead lost =>
      have hsteady : (Arrival.ahead lost).steady = .ahead lost := rfl
      by_cases hlost : lost = 0
      · rw [hsteady, arrive, arrive, if_pos hlost, if_pos hlost]
        rfl
      · rw [hsteady, arrive, arrive, if_neg hlost, if_neg hlost]
        rfl
  | backward back alarming restartedFrom? => cases restartedFrom? <;> rfl
  | first | duplicate | conflict _ | late _ => rfl

/-- Counters that agree still agree when arrivals that agree are counted. -/
theorem Shift.Agree.arrive {σ : Shift} {n n' : Counters} {a a' : Arrival}
    (h : σ.Agree Counters.steady n n') (ha : σ.Agree Arrival.steady a a') :
    σ.Agree Counters.steady (n.arrive a) (n'.arrive a') where
  steady_eq := by
    rw [Counters.steady_arrive, h.steady_eq, ha.steady_eq, ← Counters.steady_arrive]
  eq_of_turn hturn := by rw [h.eq_of_turn hturn, ha.eq_of_turn hturn]

/-- Arrivals that agree are found to be the same, with turned numbers. -/
theorem Shift.Agree.findings {σ : Shift} {a a' : Arrival} (h : σ.Agree Arrival.steady a a')
    (sequence : UInt8) :
    σ.Agree Finding.steady ((a.findings sequence).map (Finding.turn σ.turn))
      (a'.findings (sequence + σ.turn)) where
  steady_eq := by
    rw [Arrival.steady_findings, h.steady_eq, ← Arrival.steady_findings, Arrival.findings_turn,
      Finding.steady_map_turn]
  eq_of_turn hturn := by
    rw [h.eq_of_turn hturn, hturn, UInt8.add_zero, Finding.map_turn_zero]

/-- Findings agree if they agree one list after the other. -/
theorem Shift.Agree.append {σ : Shift} {xs xs' ys ys' : List Finding}
    (h : σ.Agree Finding.steady xs xs') (h' : σ.Agree Finding.steady ys ys') :
    σ.Agree Finding.steady (xs ++ ys) (xs' ++ ys') where
  steady_eq := by
    rw [Finding.steady_append, Finding.steady_append, h.steady_eq, h'.steady_eq]
  eq_of_turn hturn := by rw [h.eq_of_turn hturn, h'.eq_of_turn hturn]

/-! ### Shifted arrivals -/

namespace Arrival

variable (c : SequenceConf) (σ : Shift)

/-- Turning two numbers keeps the way from one to the other. -/
theorem add_sub_add_turn (x y : UInt8) : x + σ.turn - (y + σ.turn) = x - y := by
  grind

/-- A restart is suspected by the numbers themselves, so only if these are left alone it is
suspected alike. -/
theorem isRestart_shift (h : σ.turn = 0) (head : Head) (sequence : UInt8) (now : Nat) :
    isRestart c (head.shift σ) (sequence + σ.turn) (now + σ.delay) =
      isRestart c head sequence now := by
  simp only [isRestart, Head.shift, h, UInt8.add_zero, olderThan_add]

/-- A shifted frame is as far behind a shifted head as the frame is behind the head. -/
theorem agree_behind (head : Head) (sequence : UInt8) (now : Nat) :
    σ.Agree steady (behind c head sequence now)
      (behind c (head.shift σ) (sequence + σ.turn) (now + σ.delay)) := by
  have hback : (head.shift σ).sequence - (sequence + σ.turn) = head.sequence - sequence :=
    add_sub_add_turn σ head.sequence sequence
  have hreached : seenWithin (now + σ.delay) (head.shift σ).reachedAt c.reorderTime =
      seenWithin now head.reachedAt c.reorderTime := seenWithin_add _ _ _ _
  simp only [behind, hback, hreached]
  split
  · exact .of_eq rfl
  · refine ⟨rfl, fun hturn => ?_⟩
    rw [isRestart_shift c σ hturn, Head.shift, hturn, UInt8.add_zero]

/-- A shifted frame stands to a shifted head as the frame stands to the head. -/
theorem agree_relative (head : Head) (sequence : UInt8) (now : Nat) :
    σ.Agree steady (relative c head sequence now)
      (relative c (head.shift σ) (sequence + σ.turn) (now + σ.delay)) := by
  have hdelta : sequence + σ.turn - (head.shift σ).sequence = sequence - head.sequence :=
    add_sub_add_turn σ sequence head.sequence
  simp only [relative, hdelta]
  split
  · exact .of_eq rfl
  · split
    · exact .of_eq rfl
    · exact agree_behind c σ head sequence now

/-- **A shifted frame arrives like the frame**, if the last frame with its number and the head are
shifted too. -/
theorem agree_classify (last? : Option Sighting) (head? : Option Head) (sequence : UInt8)
    (fingerprint : UInt32) (now : Nat) :
    σ.Agree steady (classify c last? head? sequence fingerprint now)
      (classify c (last?.map (Sighting.shift σ)) (head?.map (Head.shift σ)) (sequence + σ.turn)
        fingerprint (now + σ.delay)) := by
  have hrecent : ((fun last : Sighting => seenWithin (now + σ.delay) last.seenAt c.duplicateTime) ∘
      Sighting.shift σ) = fun last => seenWithin now last.seenAt c.duplicateTime :=
    funext fun last => seenWithin_add now last.seenAt σ.delay c.duplicateTime
  simp only [classify, Option.filter_map, hrecent]
  cases last?.filter fun last => seenWithin now last.seenAt c.duplicateTime with
  | some last => exact .of_eq rfl
  | none =>
      cases head? with
      | none => exact .of_eq rfl
      | some head => exact agree_relative c σ head sequence now

end Arrival

/-! ### Shifted tracks -/

namespace Track

/-- A track is shifted against another one, apart from the time of the last activity. -/
structure Alike (σ : Shift) (t t' : Track) : Prop where
  systemId_eq : t'.systemId = t.systemId
  head?_eq : t'.head? = t.head?.map (Head.shift σ)
  ring_eq : ∀ sequence,
    t'.ring.get (sequence + σ.turn) = (t.ring.get sequence).map (Sighting.shift σ)
  sources_eq : t'.sources = t.sources.map fun _ s => s.shift σ
  counters_agree : σ.Agree Counters.steady t.counters t'.counters

/-- A track is shifted against another one. -/
structure IsShift (σ : Shift) (t t' : Track) : Prop extends Alike σ t t' where
  lastActivity_eq : t'.lastActivity = t.lastActivity + σ.delay

/-- The time of the last activity of a system that has not been heard is not shifted. -/
theorem alike_new (σ : Shift) (systemId : UInt8) : (new systemId).Alike σ (new systemId) where
  systemId_eq := rfl
  head?_eq := rfl
  ring_eq sequence := by
    rw [new, Slots.get_empty, Slots.get_empty]
    rfl
  sources_eq := rfl
  counters_agree := .of_eq rfl

section

variable {σ : Shift} {t t' : Track}

/-- Hearing a stream sets the time of the last activity, so it does not matter what it was. -/
theorem Alike.hear (h : t.Alike σ t') (streamId : String) (now : Nat) (count : Source → Source)
    (hcount : ∀ s, (count s).shift σ = count (s.shift σ)) :
    (t.hear streamId now count).IsShift σ (t'.hear streamId (now + σ.delay) count) where
  systemId_eq := h.systemId_eq
  head?_eq := h.head?_eq
  ring_eq := h.ring_eq
  sources_eq := by
    simp only [Track.hear, NameMap.map_insert, h.sources_eq, NameMap.get?_map, hcount]
    cases t.sources.get? streamId with
    | none => rfl
    | some s => rfl
  counters_agree := h.counters_agree
  lastActivity_eq := rfl

/-- Tracks are still shifted against each other when a frame becomes the head of both. -/
theorem IsShift.accept (h : t.IsShift σ t') (sequence : UInt8) (streamId : String) (now : Nat) :
    (t.accept sequence streamId now).IsShift σ
      (t'.accept (sequence + σ.turn) streamId (now + σ.delay)) where
  systemId_eq := h.systemId_eq
  head?_eq := rfl
  ring_eq := h.ring_eq
  sources_eq := by
    simp only [Track.accept, NameMap.modify, h.sources_eq, NameMap.map_map]
    refine congrArg t.sources.map (funext fun name => funext fun s => ?_)
    split <;> rfl
  counters_agree := h.counters_agree
  lastActivity_eq := h.lastActivity_eq

/-- A shifted frame arrives at a shifted track like the frame at the track. -/
theorem Alike.agree_arrival (h : t.Alike σ t') (c : SequenceConf) (f : Frame) (now : Nat) :
    σ.Agree Arrival.steady (t.arrival c f now) (t'.arrival c (f.shift σ) (now + σ.delay)) := by
  have hclassify := Arrival.agree_classify c σ (t.ring.get f.sequence) t.head? f.sequence
    f.fingerprint now
  rw [← h.ring_eq, ← h.head?_eq] at hclassify
  exact hclassify

/-- A shifted frame becomes the head of a shifted track exactly if the frame becomes the head. -/
theorem Alike.isAccepted_arrival (h : t.Alike σ t') (c : SequenceConf) (f : Frame) (now : Nat) :
    (t'.arrival c (f.shift σ) (now + σ.delay)).isAccepted = (t.arrival c f now).isAccepted := by
  rw [← Arrival.isAccepted_steady, (h.agree_arrival c f now).steady_eq, Arrival.isAccepted_steady]

/-- Numbering a frame takes tracks that are alike to tracks that are shifted against each other. -/
theorem IsShift.numbered (h : t.Alike σ t') (c : SequenceConf) (f : Frame) (streamId : String)
    (now : Nat) :
    (t.numbered c f streamId now).IsShift σ
      (t'.numbered c (f.shift σ) streamId (now + σ.delay)) := by
  have hheard := h.hear streamId now (fun s => { s with packets := s.packets + 1 }) fun s => rfl
  have hmoved : (if (t.arrival c f now).isAccepted then
        (t.hear streamId now fun s => { s with packets := s.packets + 1 }).accept f.sequence
          streamId now
      else t.hear streamId now fun s => { s with packets := s.packets + 1 }).IsShift σ
      (if (t'.arrival c (f.shift σ) (now + σ.delay)).isAccepted then
        (t'.hear streamId (now + σ.delay) fun s => { s with packets := s.packets + 1 }).accept
          (f.shift σ).sequence streamId (now + σ.delay)
      else t'.hear streamId (now + σ.delay) fun s => { s with packets := s.packets + 1 }) := by
    rw [h.isAccepted_arrival]
    split
    · exact hheard.accept f.sequence streamId now
    · exact hheard
  rw [numbered_eq, numbered_eq]
  exact {
    systemId_eq := hmoved.systemId_eq
    head?_eq := hmoved.head?_eq
    ring_eq := fun sequence => by
      have hsame : (f.shift σ).sequence = sequence + σ.turn ↔ f.sequence = sequence :=
        UInt8.add_left_inj σ.turn
      rw [Slots.get_set, Slots.get_set, h.ring_eq]
      by_cases heq : f.sequence = sequence
      · rw [if_pos heq, if_pos (hsame.2 heq), Frame.fingerprint_shift, Option.map_some,
          Sighting.shift, Frame.shift]
      · rw [if_neg heq, if_neg (mt hsame.1 heq)]
    sources_eq := hmoved.sources_eq
    counters_agree := h.counters_agree.arrive (h.agree_arrival c f now)
    lastActivity_eq := hmoved.lastActivity_eq }

/-- The active primary source of a shifted track is the shifted one. -/
theorem IsShift.activePrimary?_eq (h : t.IsShift σ t') (now window : Nat) :
    t'.activePrimary? (now + σ.delay) window =
      (t.activePrimary? now window).map (Source.shift σ) := by
  have hactive : ((fun s : Source => s.isActivePrimary (now + σ.delay) window) ∘ Source.shift σ) =
      fun s => s.isActivePrimary now window :=
    funext fun s => congrArg (s.isPrimary && ·) (seenWithin_add now s.lastSeen σ.delay window)
  rw [activePrimary?, h.sources_eq, NameMap.values_map, List.find?_map, hactive]
  rfl

/-- Tracks are still shifted against each other after the same stream is elected in both. -/
theorem IsShift.elect (h : t.IsShift σ t') (streamId : String) (now : Nat) :
    (t.elect streamId now).IsShift σ (t'.elect streamId (now + σ.delay)) where
  systemId_eq := h.systemId_eq
  head?_eq := h.head?_eq
  ring_eq := h.ring_eq
  sources_eq := by
    simp only [Track.elect, h.sources_eq, NameMap.map_map]
    refine congrArg t.sources.map (funext fun name => funext fun s => ?_)
    have hstream : (s.shift σ).streamId = s.streamId := rfl
    rw [hstream]
    split <;> rfl
  counters_agree := h.counters_agree
  lastActivity_eq := h.lastActivity_eq

/-- Shifted streams are arbitrated alike. What is found of them does not quote numbers. -/
theorem IsShift.arbitrate (h : t.IsShift σ t') (c : SequenceConf) (streamId : String)
    (now : Nat) :
    (t'.arbitrate c streamId (now + σ.delay)).1 =
        ((t.arbitrate c streamId now).1).map (Finding.turn σ.turn) ∧
      (t.arbitrate c streamId now).2.IsShift σ (t'.arbitrate c streamId (now + σ.delay)).2 := by
  rw [Track.arbitrate, Track.arbitrate, h.activePrimary?_eq]
  cases t.activePrimary? now c.multiSourceWindow with
  | none => exact ⟨rfl, h.elect streamId now⟩
  | some primary =>
      have hstream : (primary.shift σ).streamId = primary.streamId := rfl
      simp only [Option.map_some, hstream]
      split
      · exact ⟨rfl, h⟩
      · refine ⟨rfl, { h with counters_agree := ?_ }⟩
        exact h.counters_agree.map (g := Counters.crossStream) fun n => rfl

/-! ### Shifted events -/

/-- **A shifted frame is taken in like the frame.** -/
theorem isShift_observe (h : t.Alike σ t') (c : SequenceConf) (f : Frame) (streamId : String)
    (now : Nat) :
    σ.Agree Finding.steady ((t.observe c f streamId now).1.map (Finding.turn σ.turn))
        (t'.observe c (f.shift σ) streamId (now + σ.delay)).1 ∧
      (t.observe c f streamId now).2.IsShift σ
        (t'.observe c (f.shift σ) streamId (now + σ.delay)).2 := by
  have hnumbered := IsShift.numbered h c f streamId now
  obtain ⟨hfindings, hshift⟩ := hnumbered.arbitrate c streamId now
  refine ⟨?_, hshift⟩
  have happend := ((h.agree_arrival c f now).findings f.sequence).append
    (.of_eq hfindings : σ.Agree Finding.steady _ _)
  rw [← List.map_append] at happend
  exact happend

/-- **A frame that may not be used** takes tracks that are alike to shifted ones, and is found
alike. -/
theorem isShift_observeInvalid (h : t.Alike σ t') (streamId : String) (now : Nat)
    (reason : FailureReason) :
    (t'.observeInvalid streamId (now + σ.delay) reason).1 =
        (t.observeInvalid streamId now reason).1.map (Finding.turn σ.turn) ∧
      (t.observeInvalid streamId now reason).2.IsShift σ
        (t'.observeInvalid streamId (now + σ.delay) reason).2 := by
  have hheard := h.hear streamId now (fun s => { s with invalid := s.invalid + 1 }) fun s => rfl
  refine ⟨rfl, { hheard with counters_agree := ?_ }⟩
  exact h.counters_agree.map (g := Counters.reject) fun n => rfl

/-- **A sweep at the shifted time** forgets the same. -/
theorem isShift_sweep (h : t.IsShift σ t') (c : MonitorConf) (now : Nat) :
    (t'.sweep c (now + σ.delay)).1 = (t.sweep c now).1 ∧
      (t.sweep c now).2.IsShift σ (t'.sweep c (now + σ.delay)).2 := by
  have hold : (fun s : Source => !olderThan (now + σ.delay) (s.shift σ).lastSeen
      c.sweep.sourceLifetime) = fun s => !olderThan now s.lastSeen c.sweep.sourceLifetime :=
    funext fun s => congrArg not (olderThan_add now s.lastSeen σ.delay c.sweep.sourceLifetime)
  have hkept : (t'.sources.filter fun s =>
        !olderThan (now + σ.delay) s.lastSeen c.sweep.sourceLifetime) =
      (t.sources.filter fun s => !olderThan now s.lastSeen c.sweep.sourceLifetime).map
        fun _ s => s.shift σ := by
    rw [h.sources_eq, NameMap.filter_map, hold]
  have hactive : ((fun s : Source => s.isActivePrimary (now + σ.delay)
      c.sequence.multiSourceWindow) ∘ Source.shift σ) =
        fun s => s.isActivePrimary now c.sequence.multiSourceWindow :=
    funext fun s => congrArg (s.isPrimary && ·) (seenWithin_add now s.lastSeen σ.delay _)
  simp only [Track.sweep, hkept, NameMap.size_map, NameMap.values_map, List.any_map, hactive]
  refine ⟨by rw [h.sources_eq, NameMap.size_map], { h with sources_eq := ?_ }⟩
  dsimp only
  split
  · rfl
  · rw [NameMap.map_map, NameMap.map_map]
    rfl

/-- Tracks that are shifted against each other expire at shifted times. -/
theorem IsShift.isExpired_eq (h : t.IsShift σ t') (c : SweepConf) (now : Nat) :
    t'.isExpired c (now + σ.delay) = t.isExpired c now := by
  rw [isExpired, h.lastActivity_eq, olderThan_add, isExpired]

end

end Track

end Mavlink
