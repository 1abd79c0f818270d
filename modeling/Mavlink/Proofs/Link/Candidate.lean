import Mavlink.Link.Receive
import Mavlink.Proofs.Dialect.Layout
import Mavlink.Proofs.Frame.RoundTrip

/-!
# Candidates

What the receiver makes of the bytes from one position on, and how a scan acts on it. A decision on
a candidate stands when more bytes arrive: only an incomplete candidate can still change.

## Main results

* `Link.candidate_toBytes`: a written packet is looked at as a whole, whatever follows it.
* `Link.accept?_eq_some_iff`: which packets are accepted.
* `Link.exists_candidate_of_scan`, `Link.exists_packet_of_scan`: where a scan finds its frame, and
  what the frame was made of.
* `Link.candidate_append`: a candidate that is not incomplete stays what it is.
* `Link.scan_append`: a scan of more bytes goes on where the scan of the first ones ended.
* `Link.scan_noise_append`: noise before a frame does not matter.
-/

namespace Mavlink

namespace Link

/-! ### One candidate -/

/-- What the bytes begin with, when more bytes follow them. -/
def Candidate.followedBy (c : Candidate) (more : Bytes) : Candidate :=
  match c with
  | .rejected => .rejected
  | .incomplete => .incomplete
  | .accepted frame rest => .accepted frame (rest ++ more)

/-- Bytes that begin with a marker. -/
theorem head?_eq_marker {b : Bytes} {v : Version} (h : b.head?.bind Version.ofMarker? = some v) :
    b.head? = some v.marker := by
  obtain ⟨x, hx, hv⟩ := Option.bind_eq_some_iff.mp h
  rw [hx, Version.ofMarker?_eq_some_iff.mp hv]

/-- **A decision stands**: a candidate that is not incomplete stays what it is. -/
theorem candidate_append {l : Link} {b : Bytes} (hb : b ≠ [])
    (h : l.candidate b ≠ .incomplete) (more : Bytes) :
    l.candidate (b ++ more) = (l.candidate b).followedBy more := by
  have hhead : (b ++ more).head? = b.head? := by
    cases b with
    | nil => contradiction
    | cons x c => rfl
  rw [candidate] at h
  rw [candidate, candidate, hhead]
  cases hv : b.head?.bind Version.ofMarker? with
  | none => rfl
  | some v =>
      have hm := head?_eq_marker hv
      rw [hv] at h
      dsimp only at h ⊢
      cases hparse : Packet.parse? v b with
      | none =>
          rw [hparse] at h
          exact absurd rfl h
      | some found =>
          obtain ⟨p, rest⟩ := found
          rw [Packet.parse?_append hm hparse]
          dsimp only
          cases l.accept? p <;> rfl

/-- The receiver looks at a written packet as a whole, whatever follows it. -/
theorem candidate_toBytes (l : Link) {p : Packet} (hp : p.WellFormed) (rest : Bytes) :
    l.candidate (p.toBytes ++ rest) = match l.accept? p.carried with
      | none => .rejected
      | some frame => .accepted frame rest := by
  have hparse := Packet.parse?_toBytes hp rest
  rw [candidate, p.head?_toBytes, Option.bind_some, Version.ofMarker?_marker]
  dsimp only
  generalize Packet.parse? p.header.version (p.toBytes ++ rest) = parsed at hparse
  cases hparse
  rfl

/-- **Which packets are accepted**: those of a known message whose payload is long enough for their
version. -/
theorem accept?_eq_some_iff {l : Link} {p : Packet} {f : Frame} :
    l.accept? p = some f ↔ ∃ least crcExtra,
      l.registry.minPayloadSize? p.header.version p.header.messageId = some least ∧
      l.registry.crcExtra? p.header.messageId = some crcExtra ∧
      least ≤ p.payload.length ∧ f = frameOf p (l.verify p crcExtra) := by
  simp only [accept?, Option.bind_eq_bind, Option.bind_eq_some_iff]
  constructor
  · rintro ⟨least, hleast, crcExtra, hextra, h⟩
    split at h
    · contradiction
    · next hlen => exact ⟨least, crcExtra, hleast, hextra, Nat.le_of_not_lt hlen,
        (Option.some.inj h).symm⟩
  · rintro ⟨least, crcExtra, hleast, hextra, hlen, rfl⟩
    exact ⟨least, hleast, crcExtra, hextra, if_neg (Nat.not_lt.2 hlen)⟩

/-- What is accepted has been read as a packet. -/
theorem exists_parse?_of_candidate {l : Link} {b rest : Bytes} {f : Frame}
    (h : l.candidate b = .accepted f rest) :
    ∃ v p, b.head? = some (Version.marker v) ∧ Packet.parse? v b = some (p, rest) ∧
      l.accept? p = some f := by
  rw [candidate] at h
  split at h
  · contradiction
  · next v hv =>
    split at h
    · contradiction
    · next p tail hparse =>
      split at h
      · contradiction
      · next frame haccept =>
        obtain ⟨rfl, rfl⟩ := Candidate.accepted.inj h
        exact ⟨v, p, head?_eq_marker hv, hparse, haccept⟩

/-- **What is accepted** is the packet that the bytes begin with. -/
theorem exists_packet_of_candidate {l : Link} {b rest : Bytes} {f : Frame}
    (h : l.candidate b = .accepted f rest) :
    ∃ p : Packet, b = p.toBytes ++ rest ∧ p.WellFormed ∧ l.accept? p = some f := by
  obtain ⟨v, p, hm, hparse, haccept⟩ := exists_parse?_of_candidate h
  obtain ⟨hb, -, hp, -⟩ := Packet.eq_toBytes_of_parse? hm hparse
  exact ⟨p, hb, hp, haccept⟩

/-! ### One scan -/

/-- Where a packet begins and does not end, a scan stops and keeps the bytes. -/
theorem scan_of_incomplete {l : Link} {b : Bytes} (h : l.candidate b = .incomplete) :
    l.scan b = (none, b) := by
  cases b with
  | nil => rfl
  | cons x c => rw [scan, h]

/-- Where a packet is accepted, a scan stops behind it. -/
theorem scan_of_accepted {l : Link} {b rest : Bytes} {f : Frame}
    (h : l.candidate b = .accepted f rest) : l.scan b = (some f, rest) := by
  cases b with
  | nil => contradiction
  | cons x c => rw [scan, h]

/-- **Where a scan finds its frame**: at the first position that is not rejected. -/
theorem exists_candidate_of_scan {l : Link} {b rest : Bytes} {f : Frame}
    (h : l.scan b = (some f, rest)) :
    ∃ i, (∀ j < i, l.candidate (b.drop j) = .rejected) ∧
      l.candidate (b.drop i) = .accepted f rest := by
  induction b with
  | nil => cases h
  | cons x b ih =>
      rw [scan] at h
      split at h
      · next hx =>
        obtain ⟨i, hrejected, haccepted⟩ := ih h
        refine ⟨i + 1, ?_, haccepted⟩
        intro j hj
        cases j with
        | zero => exact hx
        | succ j => exact hrejected j (Nat.lt_of_succ_lt_succ hj)
      · cases h
      · next hx =>
        obtain ⟨hf, rfl⟩ := Prod.mk.inj h
        obtain rfl := Option.some.inj hf
        refine ⟨0, ?_, hx⟩
        intro j hj
        exact absurd hj (Nat.not_lt_zero j)

/-- **What a found frame was made of**: the bytes before it were given up, and those after it are
left. -/
theorem exists_packet_of_scan {l : Link} {b rest : Bytes} {f : Frame}
    (h : l.scan b = (some f, rest)) :
    ∃ (skipped : Bytes) (p : Packet),
      b = skipped ++ p.toBytes ++ rest ∧ p.WellFormed ∧ l.accept? p = some f := by
  obtain ⟨i, -, hfound⟩ := exists_candidate_of_scan h
  obtain ⟨p, hb, hp, haccept⟩ := exists_packet_of_candidate hfound
  refine ⟨b.take i, p, ?_, hp, haccept⟩
  rw [List.append_assoc, ← hb, List.take_append_drop]

/-- A found frame needs room for its payload, a header and a checksum. -/
theorem length_payload_le_of_scan {l : Link} {b rest : Bytes} {f : Frame}
    (h : l.scan b = (some f, rest)) : Version.v1.headerSize + f.payload.length + 2 ≤ b.length := by
  obtain ⟨skipped, p, rfl, hp, haccept⟩ := exists_packet_of_scan h
  obtain ⟨least, crcExtra, -, -, -, rfl⟩ := accept?_eq_some_iff.1 haccept
  have hlen := Packet.length_toBytes hp
  have hheader : Version.v1.headerSize ≤ p.header.version.headerSize := by
    cases p.header.version <;> decide
  rw [List.length_append, List.length_append, hlen]
  show _ + p.payload.length + 2 ≤ _
  omega

/-- **A scan goes on where it ended**: a frame that was found is found, and the bytes that were
given up do not come back. -/
theorem scan_append (l : Link) (b more : Bytes) :
    l.scan (b ++ more) = match l.scan b with
      | (some f, rest) => (some f, rest ++ more)
      | (none, rest) => l.scan (rest ++ more) := by
  induction b with
  | nil => rfl
  | cons x b ih =>
      have happend := candidate_append (l := l) (List.cons_ne_nil x b)
      rw [scan]
      cases hc : l.candidate (x :: b) with
      | incomplete => rfl
      | rejected =>
          have hmore := happend (hc ▸ Candidate.noConfusion) more
          rw [hc, List.cons_append] at hmore
          rw [List.cons_append, scan, hmore]
          exact ih
      | accepted f rest =>
          have hmore := happend (hc ▸ Candidate.noConfusion) more
          rw [hc, List.cons_append] at hmore
          rw [List.cons_append, scan, hmore]
          rfl

/-- The bytes that a scan without a frame keeps are kept by every further scan. -/
theorem scan_of_scan_none {l : Link} {b rest : Bytes} (h : l.scan b = (none, rest)) :
    l.scan rest = (none, rest) := by
  have happend := scan_append l b []
  rw [List.append_nil, h] at happend
  dsimp only at happend
  rw [List.append_nil] at happend
  exact happend.symm

/-! ### Noise -/

/-- A byte that is no marker is noise. -/
theorem ofMarker?_eq_none {x : UInt8} (h₁ : x ≠ 0xfe) (h₂ : x ≠ 0xfd) :
    Version.ofMarker? x = none := by
  rw [Version.ofMarker?, if_neg (show x ≠ Version.marker .v1 from h₁),
    if_neg (show x ≠ Version.marker .v2 from h₂)]

/-- Noise before a frame does not matter. -/
theorem scan_noise_append (l : Link) {noise : Bytes}
    (h : ∀ x ∈ noise, Version.ofMarker? x = none) (b : Bytes) :
    l.scan (noise ++ b) = l.scan b := by
  induction noise with
  | nil => rfl
  | cons x noise ih =>
      have hx : l.candidate (x :: (noise ++ b)) = .rejected := by
        rw [candidate, List.head?_cons, Option.bind_some, h x List.mem_cons_self]
      rw [List.cons_append, scan, hx]
      exact ih fun y hy => h y (List.mem_cons_of_mem x hy)

end Link

namespace Sample

/-- A link for the sample dialect without keys. -/
def link : Link := ⟨registry, .none⟩

/-- The registry of the link is the one that the dialect compiles to. -/
theorem compile_link : Registry.compile dialect = .ok link.registry := by
  dsimp only [link]
  exact compile_dialect

/-- A heartbeat in a frame of the first version. -/
def heartbeatBytes : Bytes :=
  [0xfe, 9, 7, 1, 2, 0, 4, 0, 0, 0, 2, 12, 81, 4, 3, 116, 240]

end Sample

end Mavlink
