import Mavlink.Proofs.Dialect.Compilation
import Mavlink.Proofs.Frame.Position
import Mavlink.Proofs.Link.Chunking

/-!
# What a reader holds

A reader that is asked for frames until there is none gives up all noise and uses up all frames.
What it holds then is the beginning of one packet, so it is shorter than the longest packet. A frame
uses up as many bytes as its packet has, and the shortest packet that is accepted has nine: the
shorter header, one byte of payload and the checksum. So the bytes that have come bound the frames
that are handed out, and with them the turns of the loop that hands them out.

## Main results

* `Link.settled_of_scan_none`: what is kept where no frame is found.
* `Link.account_scan`: what a scan uses up.
* `Reader.account_perform`, `Reader.account_run`: the bytes that calls use up.
* `Reader.buffer_stays_bounded`: what a reader holds after any history of calls, and how often the
  loop of a push turns.
-/

namespace Mavlink

/-! ### The longest and the shortest packet -/

/-- The length of the longest packet: the longer header, the longest payload, the checksum and a
signature. -/
def Packet.maxSize : Nat :=
  Version.v2.headerSize + maxPayloadSize + 2 + Signature.size

/-- The length of the shortest packet that is accepted. -/
def Packet.minSize : Nat :=
  Version.v1.headerSize + 1 + 2

/-- No header declares more than the longest packet. -/
theorem Position.stop_le_add_maxSize (v : Version) (b : Bytes) (i : Nat) :
    stop v b i ≤ i + Packet.maxSize := by
  have hpayload : payloadSize b i ≤ maxPayloadSize := Nat.le_of_lt_succ (UInt8.toNat_lt _)
  have hheader : v.headerSize ≤ Version.v2.headerSize := by cases v <;> decide
  have hsignature : (if isSigned v b i then Signature.size else 0) ≤ Signature.size := by
    split
    · exact Nat.le_refl _
    · exact Nat.zero_le _
  rw [stop, Packet.maxSize]
  omega

/-- A packet that has not arrived completely is shorter than the longest one. -/
theorem Packet.length_lt_maxSize {v : Version} {b : Bytes} (hm : b.head? = some v.marker)
    (h : parse? v b = none) : b.length < maxSize := by
  have hheader : v.headerSize < maxSize := by cases v <;> decide
  have hstop := Position.stop_le_add_maxSize v b 0
  rcases Position.parse?_drop_eq_none_iff (i := 0) hm |>.1 h with hshort | hshort
  · omega
  · omega

namespace Link

/-- In a compiled dialect no message does without a payload in the first version. -/
theorem one_le_minPayloadSize {d : Dialect} {r : Registry} {id : UInt32} {least : Nat}
    (hr : Registry.compile d = .ok r) (h : r.minPayloadSize? .v1 id = some least) : 1 ≤ least := by
  obtain ⟨layout, hlayout, rfl⟩ := Option.map_eq_some_iff.1 h
  obtain ⟨m, -, hm⟩ := Registry.exists_declaration_of_message? hr hlayout
  exact Layout.one_le_maxSize hm

/-- **The shortest packet** that a link with a compiled dialect accepts. -/
theorem minSize_le_length_of_accept? {d : Dialect} {l : Link} {p : Packet} {f : Frame}
    (hr : Registry.compile d = .ok l.registry) (hp : p.WellFormed) (h : l.accept? p = some f) :
    Packet.minSize ≤ p.toBytes.length := by
  obtain ⟨least, crcExtra, hleast, -, hlength, -⟩ := accept?_eq_some_iff.1 h
  rw [Packet.length_toBytes hp, Packet.minSize]
  cases hv : p.header.version with
  | v1 =>
      rw [hv] at hleast
      have hone := one_le_minPayloadSize hr hleast
      omega
  | v2 =>
      have hheader : Version.v1.headerSize + 1 ≤ Version.v2.headerSize := by decide
      omega

/-! ### What is kept and what is used up -/

/-- Bytes are **settled** if there are none, or if they begin at a marker and are shorter than the
longest packet. -/
def Settled (b : Bytes) : Prop :=
  b = [] ∨ (∃ v : Version, b.head? = some v.marker) ∧ b.length < Packet.maxSize

/-- Bytes in which a packet begins and does not end are settled. -/
theorem settled_of_incomplete {l : Link} {b : Bytes} (h : l.candidate b = .incomplete) :
    Settled b := by
  rw [candidate] at h
  cases hv : b.head?.bind Version.ofMarker? with
  | none =>
      rw [hv] at h
      cases h
  | some v =>
      rw [hv] at h
      dsimp only at h
      have hm := head?_eq_marker hv
      cases hparse : Packet.parse? v b with
      | none => exact .inr ⟨⟨v, hm⟩, Packet.length_lt_maxSize hm hparse⟩
      | some found =>
          rw [hparse] at h
          dsimp only at h
          split at h <;> cases h

/-- **What is kept** where no frame is found. -/
theorem settled_of_scan_none {l : Link} {b rest : Bytes} (h : l.scan b = (none, rest)) :
    Settled rest := by
  induction b with
  | nil =>
      obtain ⟨-, rfl⟩ := Prod.mk.inj h
      exact .inl rfl
  | cons x b ih =>
      rw [scan] at h
      cases hc : l.candidate (x :: b) with
      | rejected =>
          rw [hc] at h
          exact ih h
      | incomplete =>
          rw [hc] at h
          obtain ⟨-, rfl⟩ := Prod.mk.inj h
          exact settled_of_incomplete hc
      | accepted f tail =>
          rw [hc] at h
          cases h

/-- Nothing is put before the bytes that are kept where no frame is found. -/
theorem suffix_of_scan_none {l : Link} {b rest : Bytes} (h : l.scan b = (none, rest)) :
    rest <:+ b := by
  induction b with
  | nil =>
      obtain ⟨-, rfl⟩ := Prod.mk.inj h
      exact List.suffix_refl _
  | cons x b ih =>
      rw [scan] at h
      split at h
      · exact (ih h).trans (List.suffix_cons x b)
      · obtain ⟨-, rfl⟩ := Prod.mk.inj h
        exact List.suffix_refl _
      · cases h

section Compiled

variable {d : Dialect} {l : Link} (hr : Registry.compile d = .ok l.registry)
include hr

/-- **What a scan uses up**: a packet, if there is a frame. -/
theorem account_scan {b rest : Bytes} {f? : Option Frame} (h : l.scan b = (f?, rest)) :
    Packet.minSize * f?.toList.length + rest.length ≤ b.length := by
  cases f? with
  | none => exact (Nat.zero_add _).trans_le (suffix_of_scan_none h).length_le
  | some f =>
      obtain ⟨skipped, p, rfl, hp, haccept⟩ := exists_packet_of_scan h
      have hleast := minSize_le_length_of_accept? hr hp haccept
      rw [Option.toList_some, List.length_singleton, List.length_append, List.length_append]
      omega

/-- What all frames use up. -/
theorem account_drain (b : Bytes) :
    Packet.minSize * (l.drain b).1.length + (l.drain b).2.length ≤ b.length := by
  induction b using drain.induct l with
  | case1 b rest hscan =>
      rw [drain_of_scan_none hscan]
      exact account_scan hr hscan
  | case2 b f rest hscan _ _ _ ih =>
      have hused := account_scan hr hscan
      rw [Option.toList_some, List.length_singleton] at hused
      rw [drain_of_scan_some hscan, List.length_cons, Nat.mul_succ]
      dsimp only
      omega

end Compiled

end Link

namespace Reader

/-! ### Any history -/

/-- What can be done to a reader: it is called, or what it holds is forgotten. -/
inductive Action
  | call (c : Call)
  | clear
  deriving DecidableEq, Repr

/-- The reader after an action. -/
def act (r : Reader) : Action → Reader
  | .call c => (r.perform c).2
  | .clear => r.clear

/-- The reader after actions that are done one after the other. -/
def after (r : Reader) (actions : List Action) : Reader :=
  actions.foldl act r

/-- A call leaves the link of a reader as it is. -/
@[simp] theorem link_perform (r : Reader) (c : Call) : (r.perform c).2.link = r.link := by
  cases c <;> rfl

/-- An action leaves the link of a reader as it is. -/
@[simp] theorem link_act (r : Reader) (a : Action) : (r.act a).link = r.link := by
  cases a with
  | call c => exact r.link_perform c
  | clear => rfl

/-- A reader keeps its link. -/
@[simp] theorem link_after (r : Reader) (actions : List Action) :
    (r.after actions).link = r.link := by
  induction actions generalizing r with
  | nil => rfl
  | cons a actions ih => rw [after, List.foldl_cons, ← after, ih, link_act]

/-! ### What is used up -/

section Compiled

variable {d : Dialect} {r : Reader} (hr : Registry.compile d = .ok r.link.registry)
include hr

/-- **What one call uses up**: the bytes that were there and those that came make up for the frames
that are handed out and the bytes that are kept. -/
theorem account_perform (c : Call) :
    Packet.minSize * (r.perform c).1.length + (r.perform c).2.buffered ≤
      r.buffered + c.data.length := by
  cases c with
  | extend data =>
      rw [perform, List.length_nil, Nat.mul_zero, Nat.zero_add, buffered, extend,
        List.length_append]
      exact Nat.le_refl _
  | next =>
      cases hscan : r.link.scan r.buffer with
      | mk f? rest =>
          rw [perform, next_eq_of_scan hscan]
          exact Link.account_scan hr hscan
  | push data =>
      have hdrain := Link.account_drain hr (r.buffer ++ data)
      rwa [List.length_append] at hdrain

/-- **What a run uses up.** -/
theorem account_run (calls : List Call) :
    Packet.minSize * (r.run calls).1.length + (r.run calls).2.buffered ≤
      r.buffered + (calls.flatMap Call.data).length := by
  induction calls generalizing r with
  | nil => exact Nat.le_of_eq (Nat.zero_add _)
  | cons c calls ih =>
      have hcall := account_perform hr c
      have hrest := ih (r := (r.perform c).2) (by rwa [link_perform])
      rw [run, List.flatMap_cons, List.length_append]
      dsimp only
      rw [List.length_append, Nat.mul_add]
      omega

end Compiled

/-! ### What is held -/

/-- A reader is **settled** if what it holds is. -/
def Settled (r : Reader) : Prop :=
  Link.Settled r.buffer

/-- A reader that has given no frame is settled. -/
theorem settled_of_next_none {r : Reader} (h : r.next.1 = none) : r.next.2.Settled := by
  cases hscan : r.link.scan r.buffer with
  | mk f? rest =>
      rw [next_eq_of_scan hscan] at h ⊢
      obtain rfl : f? = none := h
      exact Link.settled_of_scan_none hscan

/-- A waiting reader is settled. -/
theorem Waiting.settled {r : Reader} (h : r.Waiting) : r.Settled := by
  have hnext := settled_of_next_none (congrArg Prod.fst h)
  rwa [h] at hnext

/-! ### The loop of a push -/

/-- A reader **yields** frames: asked again and again it hands out one after the other, until there
is none. The reader that is left is the one after the last time. -/
inductive Yields : Reader → List Frame → Reader → Prop
  | none {r after : Reader} (h : r.next = (none, after)) : Yields r [] after
  | some {r rest after : Reader} {f : Frame} {frames : List Frame} (h : r.next = (some f, rest))
      (hrest : Yields rest frames after) : Yields r (f :: frames) after

/-- **The loop of a push ends**, with the frames and the reader of the push. -/
theorem yields_push (r : Reader) (data : Bytes) :
    (r.extend data).Yields (r.push data).1 (r.push data).2 := by
  obtain ⟨l, buffer⟩ := r
  have hloop : ∀ b : Bytes, Yields ⟨l, b⟩ (l.drain b).1 ⟨l, (l.drain b).2⟩ := by
    intro b
    induction b using Link.drain.induct l with
    | case1 b rest hscan =>
        rw [Link.drain_of_scan_none hscan]
        exact .none (next_eq_of_scan hscan)
    | case2 b f rest hscan _ _ _ ih =>
        rw [Link.drain_of_scan_some hscan]
        exact .some (next_eq_of_scan hscan) ih
  exact hloop (buffer ++ data)

/-! ### A reader after anything -/

/-- **What a reader holds stays bounded.** The link has a compiled dialect and any keys, and
anything has been done to the reader. Then what is left after a push, and after a call that gives no
frame, is nothing, or it begins at a marker and has at most 279 bytes; and asking for a frame once
more gives none and changes nothing. Every frame uses up nine bytes or more. So a push hands out at
most one frame for nine bytes that were there or have come, and the loop by which it does so
ends. -/
theorem buffer_stays_bounded {d : Dialect} {l : Link} (hr : Registry.compile d = .ok l.registry)
    (actions : List Action) :
    let r := (ofLink l).after actions
    (∀ data, let (frames, after) := r.push data
      (after.buffer = [] ∨ (after.buffer.head? = some 0xfe ∨ after.buffer.head? = some 0xfd) ∧
        after.buffered ≤ 279) ∧
      after.next = (none, after) ∧
      frames.length ≤ (r.buffered + data.length) / 9 ∧
      (r.extend data).Yields frames after) ∧
    (∀ after, r.next = (none, after) →
      (after.buffer = [] ∨ (after.buffer.head? = some 0xfe ∨ after.buffer.head? = some 0xfd) ∧
        after.buffered ≤ 279) ∧
      after.next = (none, after)) ∧
    ∀ f after, r.next = (some f, after) → after.buffered + 9 ≤ r.buffered := by
  intro r
  have hr : Registry.compile d = .ok r.link.registry := by rwa [link_after]
  have hsettled : ∀ {after : Reader}, after.Waiting → after.buffer = [] ∨
      (after.buffer.head? = some 0xfe ∨ after.buffer.head? = some 0xfd) ∧
        after.buffered ≤ 279 := by
    intro after hwaiting
    refine hwaiting.settled.imp_right (And.imp ?_ Nat.le_of_lt_succ)
    rintro ⟨v, hv⟩
    cases v with
    | v1 => exact .inl hv
    | v2 => exact .inr hv
  refine ⟨?_, ?_, ?_⟩
  · intro data
    have hused := account_perform hr (.push data)
    have hwaiting := waiting_push r data
    refine ⟨hsettled hwaiting, hwaiting, ?_, yields_push r data⟩
    rw [Nat.le_div_iff_mul_le (by decide), Nat.mul_comm]
    exact (Nat.le_add_right _ _).trans hused
  · intro after hnext
    have hwaiting := waiting_of_next_none (congrArg Prod.fst hnext)
    rw [hnext] at hwaiting
    exact ⟨hsettled hwaiting, hwaiting⟩
  · intro f after hnext
    have hused := account_perform hr .next
    rw [perform, hnext] at hused
    exact (Nat.add_comm _ _).trans_le hused

/-- The longest beginning of a packet, pushed after other bytes have come and have been forgotten:
it is kept, and nothing is handed out. -/
theorem buffer_stays_bounded_longest :
    let r := (ofLink Sample.link).after [.call (.extend [0x55, 0xfe, 9]), .call .next, .clear]
    let after := (r.push (0xfd :: 255 :: 1 :: List.replicate 276 0)).2
    after.buffered = 279 ∧ after.buffered ≤ 279 ∧ after.next = (none, after) := by
  intro r after
  have hkept : after.buffered = 279 := by decide +kernel
  obtain ⟨hpush, -, -⟩ := buffer_stays_bounded Sample.compile_link
    [.call (.extend [0x55, 0xfe, 9]), .call .next, .clear]
  obtain ⟨hbounded, hnext, -, -⟩ := hpush (0xfd :: 255 :: 1 :: List.replicate 276 0)
  refine ⟨hkept, ?_, hnext⟩
  rcases hbounded with hempty | ⟨-, hle⟩
  · exact (congrArg List.length hempty).trans_le (Nat.zero_le _)
  · exact hle

end Reader

end Mavlink
