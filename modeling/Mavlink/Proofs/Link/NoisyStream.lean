import Mavlink.Proofs.Link.Chunking
import Mavlink.Proofs.Link.OwnOutput
import Mavlink.Proofs.Link.RoundTrip
import Mavlink.Workload

/-!
# Frames on a noisy link

A sender writes frames with noise before, between and behind them, and a reader gets the stream in
pieces. The body of a frame may hold markers, so a piece can end where the bytes look like the
beginning of a frame that is none. As a reader's frames do not depend on the cuts, it is enough to
drain the whole stream, and that is an induction on the frames: noise is given up, the packet behind
it is taken as a whole, and draining goes on where the packet ends.

What is handed out are the frames that *arrive*. These are the frames as they were completed, but
for what the wire has no room for: the flags of a frame of the first version, the high bits of a
timestamp, and a signature on a frame that is not signed.

## Main results

* `Frame.arrived_eq_self_iff`: which frames arrive as they are.
* `Link.drain_packed_append`: a sent frame is the first that is drained.
* `Link.exists_sendBursts`: what draining a noisy stream gives.
* `Workload.readableFrames_eq_ok`: every status text of the noisy workload is read.
* `Link.noisy_stream_arrives`: frames with noise between them arrive, however the stream is cut.
-/

namespace Mavlink

/-! ### Noise and pieces -/

namespace Bytes

/-- **Noise** has no byte that starts a frame. -/
def IsNoise (b : Bytes) : Prop :=
  ∀ x ∈ b, x ≠ 0xfe ∧ x ≠ 0xfd

instance : DecidablePred IsNoise :=
  List.decidableBAll fun x => x ≠ 0xfe ∧ x ≠ 0xfd

/-- Cutting a string into pieces loses nothing. -/
theorem flatten_chunks {size : Nat} (hsize : 1 ≤ size) (b : Bytes) :
    (chunks size b).flatten = b := by
  have hdiv := Nat.div_add_mod (b.length + size - 1) size
  have hmod := Nat.mod_lt (b.length + size - 1) hsize
  have hall : b.length ≤ size * ((b.length + size - 1) / size) := by omega
  rw [chunks, flatten_pieces, List.take_of_length_le hall]

end Bytes

/-- A fresh reader that gets a stream in pieces hands out what draining the stream gives. -/
theorem Reader.pushAll_ofLink (l : Link) (pieces : List Bytes) :
    ((ofLink l).pushAll pieces).1.flatten = (l.drain pieces.flatten).1 ∧
      ((ofLink l).pushAll pieces).2.buffer = (l.drain pieces.flatten).2 := by
  have hdata : (pieces.map Call.push).flatMap Call.data = pieces.flatten := by
    rw [List.flatMap_map]
    exact List.flatMap_id
  have hrun := run_eq_push ((waiting_ofLink l).run_push pieces)
  rw [hdata, ← pushAll_eq_run] at hrun
  obtain ⟨hframes, hreader⟩ := Prod.mk.inj hrun
  exact ⟨hframes, congrArg buffer hreader⟩

/-! ### What the wire has room for -/

/-- A frame **fits on the wire** if it has nothing that the wire has no room for. -/
structure Frame.FitsWire (f : Frame) : Prop where
  flags : f.version = .v1 → f.incompatFlags = 0 ∧ f.compatFlags = 0
  signature : f.isSigned = false → f.signature? = none
  timestamp : ∀ s, f.signature? = some s → s.timestamp < Signature.timestampBound

/-- **Which frames arrive as they are.** -/
theorem Frame.arrived_eq_self_iff {f : Frame} : f.arrived = f ↔ f.FitsWire := by
  constructor
  · intro h
    have hincompat := congrArg incompatFlags h
    have hcompat := congrArg compatFlags h
    have hsignature := congrArg signature? h
    refine ⟨?_, ?_, ?_⟩
    · intro hversion
      simp only [arrived, hversion] at hincompat hcompat
      exact ⟨hincompat.symm, hcompat.symm⟩
    · intro hsigned
      simp only [arrived, hsigned] at hsignature
      exact hsignature.symm
    · intro s hs
      simp only [arrived, hs] at hsignature
      split at hsignature
      · exact Signature.carried_eq_self_iff.1 (Option.some.inj hsignature)
      · contradiction
  · rintro ⟨hflags, hsignature, htime⟩
    have hkept : f.arrived.signature? = f.signature? := by
      simp only [arrived]
      split
      · cases hs : f.signature? with
        | none => rfl
        | some s => exact congrArg some (Signature.carried_eq_self_iff.2 (htime s hs))
      · next hsigned => exact (hsignature (Bool.eq_false_of_not_eq_true hsigned)).symm
    have hincompat : f.arrived.incompatFlags = f.incompatFlags := by
      simp only [arrived]
      split
      · next hversion => exact (hflags hversion).1.symm
      · rfl
    have hcompat : f.arrived.compatFlags = f.compatFlags := by
      simp only [arrived]
      split
      · next hversion => exact (hflags hversion).2.symm
      · rfl
    have hfields : f.arrived = { f with
        incompatFlags := f.arrived.incompatFlags
        compatFlags := f.arrived.compatFlags
        signature? := f.arrived.signature? } := rfl
    rw [hfields, hincompat, hcompat, hkept]

/-- The frames that all arrive as they are. -/
theorem Frame.map_arrived_eq_self_iff {frames : List Frame} :
    frames.map arrived = frames ↔ ∀ f ∈ frames, f.FitsWire := by
  have hid := List.map_inj_left (l := frames) (f := arrived) (g := id)
  rw [List.map_id] at hid
  rw [hid]
  exact forall₂_congr fun f _ => arrived_eq_self_iff

namespace Link

/-! ### Draining what was sent -/

/-- Noise in front is given up. -/
theorem drain_noise_append (l : Link) {noise : Bytes} (h : noise.IsNoise) (b : Bytes) :
    l.drain (noise ++ b) = l.drain b := by
  have hquiet : ∀ x ∈ noise, Version.ofMarker? x = none := by
    intro x hx
    obtain ⟨hv1, hv2⟩ := h x hx
    exact ofMarker?_eq_none hv1 hv2
  exact drain_congr (scan_noise_append l hquiet b)

/-- There is nothing to drain from no bytes. -/
theorem drain_nil (l : Link) : l.drain [] = ([], []) :=
  drain_of_scan_none rfl

/-- There are no frames in noise, and none of it is kept. -/
theorem drain_noise (l : Link) {noise : Bytes} (h : noise.IsNoise) :
    l.drain noise = ([], []) := by
  have hdrain := l.drain_noise_append h []
  rw [List.append_nil] at hdrain
  rw [hdrain, drain_nil]

/-- A frame is **receivable** if it can be sent and its payload is as long as the receiver asks for
in a frame of its version. -/
structure Receivable (l : Link) (f : Frame) : Prop where
  packs : ∃ packed, l.pack f = .ok packed
  longEnough : ∃ least, l.registry.minPayloadSize? f.version f.messageId = some least ∧
    least ≤ f.payload.length

/-- What can be sent with a payload for all fields is receivable. -/
theorem receivable_of_message? {r : Registry} {keys : KeyProvider} {f : Frame} {m : Layout}
    {signing? : Option (Signature × SecretKey)} (hm : r.message? f.messageId = some m)
    (hid : f.messageId ≤ f.version.maxMessageId) (hle : f.payload.length ≤ maxPayloadSize)
    (hmin : m.minSize ≤ f.payload.length) (hmax : m.maxSize ≤ f.payload.length)
    (hsigning : Link.signing? ⟨r, keys⟩ f = .ok signing?) : Receivable ⟨r, keys⟩ f := by
  have hextra : r.crcExtra? f.messageId = some m.crcExtra := congrArg (Option.map _) hm
  refine ⟨⟨_, pack_eq_ok_iff.2 ⟨hle, hid, m.crcExtra, signing?, hextra, hsigning, rfl⟩⟩, ?_⟩
  simp only [Registry.minPayloadSize?, hm, Option.map_some]
  cases f.version with
  | v1 => exact ⟨m.maxSize, rfl, hmax⟩
  | v2 => exact ⟨m.minSize, rfl, hmin⟩

/-- **A sent frame is the first that is drained**, and draining goes on behind it. -/
theorem drain_packed_append {l : Link} (hkeys : l.keys.Standard) {f : Frame} (hf : l.Receivable f)
    {packed : Packed} (hpack : l.pack f = .ok packed) (rest : Bytes) :
    l.drain (packed.bytes ++ rest) =
      (packed.frame.arrived :: (l.drain rest).1, (l.drain rest).2) := by
  obtain ⟨least, hleast, hlen⟩ := hf.longEnough
  obtain ⟨hpayload, hid, crcExtra, signing?, hextra, hsigning, rfl⟩ := pack_eq_ok_iff.1 hpack
  have hcandidate := candidate_sentPacket hkeys hpayload hid hextra hsigning hleast hlen rest
  rw [bytes_complete]
  exact drain_of_scan_some (scan_of_accepted hcandidate)

/-- What was sent may be used, and so may what arrives of it. -/
theorem isValid_arrived_of_pack {l : Link} {f : Frame} {packed : Packed}
    (hpack : l.pack f = .ok packed) : packed.frame.arrived.isValid = true := by
  obtain ⟨-, -, crcExtra, signing?, -, -, rfl⟩ := pack_eq_ok_iff.1 hpack
  cases signing? with
  | none => exact isValid_arrived_complete f crcExtra
  | some signing => rfl

/-! ### Bursts -/

/-- A **burst**: a frame, and the noise before it. -/
structure Burst where
  noise : Bytes
  frame : Frame

/-- Sends bursts at the end of a stream: the stream with them, and the completed frames. -/
def sendBursts (l : Link) (stream : Bytes) : List Burst → Except FrameError (Bytes × List Frame)
  | [] => .ok (stream, [])
  | b :: bursts => do
    let sent ← l.send (stream ++ b.noise) b.frame
    let (stream, frames) ← l.sendBursts sent.stream bursts
    return (stream, sent.frame :: frames)

/-- A frame that can be packed is sent by adding its bytes to the stream. -/
theorem send_of_pack {l : Link} {f : Frame} {packed : Packed} (hpack : l.pack f = .ok packed)
    (stream : Bytes) : l.send stream f = .ok
      { stream := stream ++ packed.bytes
        frame := packed.frame
        written := packed.bytes.length } := by
  rw [send, hpack]

/-- **Draining bursts** gives the frames that arrive, and goes on behind them. -/
theorem exists_sendBursts {l : Link} (hkeys : l.keys.Standard) {bursts : List Burst}
    (h : ∀ b ∈ bursts, b.noise.IsNoise ∧ l.Receivable b.frame) (stream : Bytes) :
    ∃ added frames, l.sendBursts stream bursts = .ok (stream ++ added, frames) ∧
      (∀ f ∈ frames, f.arrived.isValid = true) ∧
      ∀ rest, l.drain (added ++ rest) =
        (frames.map Frame.arrived ++ (l.drain rest).1, (l.drain rest).2) := by
  induction bursts generalizing stream with
  | nil =>
      refine ⟨[], [], ?_, ?_, ?_⟩
      · rw [sendBursts, List.append_nil]
      · intro f hf
        exact absurd hf List.not_mem_nil
      · intro rest
        rfl
  | cons b bursts ih =>
      obtain ⟨hnoise, hf⟩ := h b List.mem_cons_self
      obtain ⟨packed, hpack⟩ := hf.packs
      obtain ⟨added, frames, hsend, hvalid, hdrain⟩ :=
        ih (fun c hc => h c (List.mem_cons_of_mem b hc)) (stream ++ b.noise ++ packed.bytes)
      refine ⟨b.noise ++ (packed.bytes ++ added), packed.frame :: frames, ?_, ?_, ?_⟩
      · have hstream : stream ++ (b.noise ++ (packed.bytes ++ added)) =
            stream ++ b.noise ++ packed.bytes ++ added := by
          simp only [List.append_assoc]
        rw [sendBursts, send_of_pack hpack, hstream]
        show (l.sendBursts (stream ++ b.noise ++ packed.bytes) bursts >>= _) = _
        rw [hsend]
        rfl
      · intro f hmem
        rcases List.mem_cons.1 hmem with rfl | hmem
        · exact isValid_arrived_of_pack hpack
        · exact hvalid f hmem
      · intro rest
        rw [List.append_assoc, List.append_assoc, drain_noise_append l hnoise,
          drain_packed_append hkeys hf hpack, hdrain]
        rfl

end Link

/-! ### The noisy workload -/

namespace Workload

/-- A status text is given by its text and its severity. -/
theorem get?_statusFields (i : Nat) (name : String) :
    (statusFields i).get? name =
      if name = "text" then some (.scalar (.text s!"status #{i}"))
      else if name = "severity" then some (.scalar (.text "MAV_SEVERITY_INFO"))
      else none :=
  @NameMap.get?_ofList_reverse Value
    [("text", .scalar (.text s!"status #{i}")), ("severity", .scalar (.text "MAV_SEVERITY_INFO"))]
    name

/-- Every status text can be written, however long its number is. -/
theorem exists_statusPayload (i : Nat) :
    ∃ payload, Sample.registry.encodePayload 253 (statusFields i) = .ok payload := by
  refine Registry.exists_encodePayload Sample.compile_dialect Sample.message?_statusText
    Sample.fits_statusText ?_
  intro s hs
  have hget := get?_statusFields i s.name
  simp only [Sample.statusTextLayout, Layout.place, List.mem_cons, List.not_mem_nil,
    or_false] at hs
  rcases hs with rfl | rfl | rfl | rfl
  · refine ⟨[6], Registry.written_of_get? hget ?_ rfl⟩
    decide +kernel
  · exact ⟨_, Registry.written_of_get? hget (Registry.writeSlot_text _ rfl _)
      (Bytes.length_fit _ _)⟩
  · exact ⟨_, Registry.written_of_get?_none hget⟩
  · exact ⟨_, Registry.written_of_get?_none hget⟩

/-- The bytes of a status text are those of its frame and the noise behind them. -/
theorem statusBytes_eq_ok {l : Link} {i : Nat} {f g : Frame} {packed : Packed}
    (hbuild : (statusDraft i).build = .ok f)
    (hfill : l.fill f Sample.statusText.id (statusFields i) = .ok g)
    (hpack : l.pack g = .ok packed) :
    statusBytes l i = .ok (packed.bytes ++ noise) := by
  rw [statusBytes, hbuild]
  simp only [Except.mapError, bind, Except.bind, hfill, hpack]
  rfl

section Statuses

variable {r : Registry} {keys : KeyProvider} {m : Layout}

/-- A status text whose payload can be written can be sent; what arrives of it is received, and its
fields can be read. -/
theorem exists_statusBytes {i : Nat} {payload : Bytes} (hm : r.message? 253 = some m)
    (hencode : r.encodePayload 253 (statusFields i) = .ok payload)
    (hmin : m.minSize ≤ payload.length) (hle : payload.length ≤ maxPayloadSize) :
    ∃ f packed, Link.pack ⟨r, keys⟩ f = .ok packed ∧ Link.Receivable ⟨r, keys⟩ f ∧
      statusBytes ⟨r, keys⟩ i = .ok (packed.bytes ++ noise) ∧
      (Link.fieldsOf ⟨r, keys⟩ packed.frame.arrived).isOk = true := by
  obtain ⟨f, hbuild, hversion, hsigned⟩ :
      ∃ f, (statusDraft i).build = .ok f ∧ f.version = .v2 ∧ f.isSigned = false :=
    ⟨_, rfl, rfl, rfl⟩
  have hfill : Link.fill ⟨r, keys⟩ f 253 (statusFields i) =
      .ok { f with payload, messageId := 253 } :=
    Link.fill_eq_ok_iff.2 ⟨payload, hencode, rfl⟩
  have hextra : r.crcExtra? 253 = some m.crcExtra := congrArg (Option.map _) hm
  have hleast : r.minPayloadSize? f.version 253 = some m.minSize := by
    rw [Registry.minPayloadSize?, hm, hversion]
    rfl
  have hid : (253 : UInt32) ≤ f.version.maxMessageId := by
    rw [hversion]
    decide
  have hpack : Link.pack ⟨r, keys⟩ { f with payload, messageId := 253 } =
      .ok (Link.complete { f with payload, messageId := 253 } m.crcExtra none) :=
    Link.pack_eq_ok_iff.2 ⟨hle, hid, m.crcExtra, none, hextra,
      Link.signing?_eq_ok_none_iff.2 hsigned, rfl⟩
  refine ⟨_, _, hpack, ⟨⟨_, hpack⟩, m.minSize, hleast, hmin⟩,
    statusBytes_eq_ok hbuild hfill hpack, ?_⟩
  show (r.decodePayload 253 payload).isOk = true
  rw [(Registry.decodePayload_eq_ok_iff hm).2 ⟨hmin, rfl⟩]
  rfl

/-- The bytes between the status texts are noise. -/
theorem isNoise_noise : noise.IsNoise := by
  decide

/-- The status texts of a list of numbers: what draining their stream gives. -/
theorem exists_statusPieces (hkeys : keys.Standard) (hm : r.message? 253 = some m)
    (hwrite : ∀ i, ∃ payload, r.encodePayload 253 (statusFields i) = .ok payload ∧
      m.minSize ≤ payload.length ∧ payload.length ≤ maxPayloadSize) (indices : List Nat) :
    ∃ pieces frames, indices.mapM (statusBytes ⟨r, keys⟩) = .ok pieces ∧
      Link.drain ⟨r, keys⟩ pieces.flatten = (frames, []) ∧ frames.length = indices.length ∧
      ∀ f ∈ frames, (Link.fieldsOf ⟨r, keys⟩ f).isOk = true := by
  induction indices with
  | nil =>
      refine ⟨[], [], rfl, Link.drain_nil _, rfl, ?_⟩
      intro f hf
      exact absurd hf List.not_mem_nil
  | cons i indices ih =>
      obtain ⟨pieces, frames, hpieces, hdrain, hlength, hfields⟩ := ih
      obtain ⟨payload, hencode, hmin, hle⟩ := hwrite i
      obtain ⟨f, packed, hpack, hf, hbytes, hread⟩ := exists_statusBytes hm hencode hmin hle
      refine ⟨(packed.bytes ++ noise) :: pieces, packed.frame.arrived :: frames, ?_, ?_, ?_, ?_⟩
      · rw [List.mapM_cons, hbytes, hpieces]
        rfl
      · rw [List.flatten_cons, List.append_assoc, Link.drain_packed_append hkeys hf hpack,
          Link.drain_noise_append _ isNoise_noise, hdrain]
      · rw [List.length_cons, List.length_cons, hlength]
      · intro g hg
        rcases List.mem_cons.1 hg with rfl | hg
        · exact hread
        · exact hfields g hg

end Statuses

/-- **Every status text is read**, however many there are and however long the pieces are. -/
theorem readableFrames_eq_ok (count : Nat) {size : Nat} (hsize : 1 ≤ size) :
    readableFrames Sample.link count size = .ok count := by
  have hwrite : ∀ i, ∃ payload,
      Sample.registry.encodePayload 253 (statusFields i) = .ok payload ∧
        Sample.statusTextLayout.minSize ≤ payload.length ∧ payload.length ≤ maxPayloadSize := by
    intro i
    obtain ⟨payload, hencode⟩ := exists_statusPayload i
    obtain ⟨-, hmin, hmax, hle⟩ := Registry.endsAt_of_encodePayload Sample.compile_dialect
      Sample.message?_statusText Sample.fits_statusText hencode
    exact ⟨payload, hencode, hmin, Nat.le_trans hmax hle⟩
  obtain ⟨pieces, frames, hpieces, hdrain, hlength, hfields⟩ :=
    exists_statusPieces .none Sample.message?_statusText hwrite (List.range count)
  have hread :=
    (Reader.pushAll_ofLink ⟨Sample.registry, .none⟩ (Bytes.chunks size pieces.flatten)).1
  rw [Bytes.flatten_chunks hsize, hdrain] at hread
  have hall : frames.countP (fun f => (Link.fieldsOf ⟨Sample.registry, .none⟩ f).isOk) = count := by
    rw [List.countP_eq_length.2 hfields, hlength, List.length_range]
  rw [Sample.link, readableFrames, statusStream, hpieces]
  show Except.ok (List.countP _ (List.flatten _)) = _
  rw [hread, hall]

end Workload

namespace Link

/-- **Frames on a noisy link arrive.** Receivable frames are sent with noise before, between and
behind them. However the stream is cut, a fresh reader hands out the frames that arrive, in the
order in which they were sent and no others, each of them may be used, and no bytes are left. They
are the frames as they were completed if and only if each of those fits on the wire. In particular,
every status text of the noisy workload is read. -/
theorem noisy_stream_arrives (registry : Registry) (keys : KeyProvider) (hkeys : keys.Standard)
    (bursts : List Burst) (last : Bytes)
    (hbursts : ∀ b ∈ bursts, b.noise.IsNoise ∧ Receivable ⟨registry, keys⟩ b.frame)
    (hlast : last.IsNoise) :
    (∃ stream frames, sendBursts ⟨registry, keys⟩ [] bursts = .ok (stream, frames) ∧
      ∀ pieces : List Bytes, pieces.flatten = stream ++ last →
        ((Reader.ofLink ⟨registry, keys⟩).pushAll pieces).1.flatten = frames.map Frame.arrived ∧
        (((Reader.ofLink ⟨registry, keys⟩).pushAll pieces).1.flatten = frames ↔
          ∀ f ∈ frames, f.FitsWire) ∧
        (∀ f ∈ frames, f.arrived.isValid = true) ∧
        ((Reader.ofLink ⟨registry, keys⟩).pushAll pieces).2.buffer = []) ∧
    ∀ count size, 1 ≤ size → Workload.readableFrames Sample.link count size = .ok count := by
  constructor
  · obtain ⟨stream, frames, hsend, hvalid, hdrain⟩ := exists_sendBursts hkeys hbursts []
    refine ⟨stream, frames, hsend, ?_⟩
    intro pieces hpieces
    obtain ⟨hframes, hbuffer⟩ := Reader.pushAll_ofLink ⟨registry, keys⟩ pieces
    rw [hpieces, hdrain, drain_noise _ hlast, List.append_nil] at hframes
    rw [hpieces, hdrain, drain_noise _ hlast] at hbuffer
    refine ⟨hframes, ?_, hvalid, hbuffer⟩
    rw [hframes]
    exact Frame.map_arrived_eq_self_iff
  · intro count size hsize
    exact Workload.readableFrames_eq_ok count hsize

end Link

/-! ### Frames that the wire has no room for -/

namespace Sample

/-- One key for all signed heartbeats. -/
def signingKeys : KeyProvider := .static (.ofText "key")

/-- A heartbeat in a frame of the first version, with a flag. -/
def flaggedHeartbeat : Frame :=
  { signedHeartbeat with
    version := .v1, isSigned := false, incompatFlags := 2, signature? := none }

/-- A heartbeat with a signature in a frame that is not to be signed. -/
def unaskedHeartbeat : Frame :=
  { signedHeartbeat with isSigned := false }

/-- A heartbeat of nine bytes that can be signed as it asks for can be received. -/
theorem receivable_heartbeat {keys : KeyProvider} {f : Frame} (hid : f.messageId = 0)
    (hlen : f.payload.length = 9)
    (hsigning : ∃ signing?, Link.signing? ⟨registry, keys⟩ f = .ok signing?) :
    Link.Receivable ⟨registry, keys⟩ f := by
  have hsizes : (registry.message? 0).map (fun m => (m.minSize, m.maxSize)) = some (9, 9) := by
    decide +kernel
  obtain ⟨m, hm, hsizes⟩ := Option.map_eq_some_iff.1 hsizes
  obtain ⟨hmin, hmax⟩ := Prod.mk.inj hsizes
  obtain ⟨signing?, hsigning⟩ := hsigning
  have hle : f.payload.length ≤ maxPayloadSize := by
    rw [hlen]
    decide
  have hmessage : f.messageId ≤ f.version.maxMessageId := by
    rw [hid]
    cases f.version <;> decide
  rw [← hid] at hm
  exact Link.receivable_of_message? hm hmessage hle (by rw [hmin, hlen]) (by rw [hmax, hlen])
    hsigning

end Sample

namespace Link

/-- Two heartbeats arrive, a signed one and one of the first version. -/
theorem noisy_stream_arrives_heartbeats :
    (∃ stream frames, sendBursts ⟨Sample.registry, Sample.signingKeys⟩ []
        [⟨[1], Sample.signedHeartbeat⟩, ⟨[2, 3], Sample.flaggedHeartbeat⟩] = .ok (stream, frames) ∧
      ((Reader.ofLink ⟨Sample.registry, Sample.signingKeys⟩).pushAll
        (Bytes.chunks 7 (stream ++ [0]))).1.flatten = frames.map Frame.arrived) ∧
    Workload.readableFrames Sample.link 300 5 = .ok 300 := by
  have hbursts : ∀ b ∈ [(⟨[1], Sample.signedHeartbeat⟩ : Burst), ⟨[2, 3], Sample.flaggedHeartbeat⟩],
      b.noise.IsNoise ∧ Receivable ⟨Sample.registry, Sample.signingKeys⟩ b.frame := by
    intro b hb
    simp only [List.mem_cons, List.not_mem_nil, or_false] at hb
    rcases hb with rfl | rfl
    · exact ⟨by decide, Sample.receivable_heartbeat rfl rfl ⟨_, rfl⟩⟩
    · exact ⟨by decide, Sample.receivable_heartbeat rfl rfl ⟨_, rfl⟩⟩
  obtain ⟨⟨stream, frames, hsend, harrive⟩, hread⟩ :=
    noisy_stream_arrives Sample.registry Sample.signingKeys (.static _) _ [0] hbursts (by decide)
  refine ⟨⟨stream, frames, hsend, ?_⟩, hread 300 5 (by decide)⟩
  exact (harrive _ (Bytes.flatten_chunks (by decide) _)).1

/-- A receivable frame is **altered** on its way if its reader does not hand it out as it was
completed. -/
def Alters (l : Link) (f : Frame) : Prop :=
  l.Receivable f ∧ ∃ packed, l.pack f = .ok packed ∧
    ((Reader.ofLink l).push packed.bytes).1 ≠ [packed.frame]

/-- A receivable frame that does not fit on the wire when it is completed is altered. -/
theorem alters_of_not_fitsWire {l : Link} (hkeys : l.keys.Standard) {f : Frame}
    (hf : l.Receivable f) {signing? : Option (Signature × SecretKey)}
    (hsigning : l.signing? f = .ok signing?)
    (hfits : ∀ crcExtra, ¬ (complete f crcExtra signing?).frame.FitsWire) : l.Alters f := by
  obtain ⟨packed, hpack⟩ := hf.packs
  have hdrain := drain_packed_append hkeys hf hpack []
  rw [List.append_nil, drain_nil] at hdrain
  refine ⟨hf, packed, hpack, ?_⟩
  show (l.drain packed.bytes).1 ≠ [packed.frame]
  rw [hdrain]
  obtain ⟨-, -, crcExtra, signing', -, hsigning', rfl⟩ := pack_eq_ok_iff.1 hpack
  obtain rfl := Except.ok.inj (hsigning.symm.trans hsigning')
  intro heq
  exact hfits crcExtra (Frame.arrived_eq_self_iff.1 (List.cons.inj heq).1)

/-- What a reader hands out of a frame is not always the frame as it was packed: the flags of a
frame of the first version, a signature that was not asked for, and the high bits of a timestamp
are lost. -/
theorem packed_frame_not_returned :
    Alters ⟨Sample.registry, Sample.signingKeys⟩ Sample.flaggedHeartbeat ∧
      Alters ⟨Sample.registry, Sample.signingKeys⟩ Sample.unaskedHeartbeat ∧
      Alters ⟨Sample.registry, Sample.signingKeys⟩ Sample.lateHeartbeat := by
  refine ⟨?_, ?_, ?_⟩
  · refine alters_of_not_fitsWire (.static _) (Sample.receivable_heartbeat rfl rfl ⟨_, rfl⟩) rfl ?_
    intro crcExtra hfits
    have hflags : (2 : UInt8) = 0 := (hfits.flags rfl).1
    exact absurd hflags (by decide)
  · refine alters_of_not_fitsWire (.static _) (Sample.receivable_heartbeat rfl rfl ⟨_, rfl⟩) rfl ?_
    intro crcExtra hfits
    exact absurd (hfits.signature rfl) (Option.some_ne_none _)
  · refine alters_of_not_fitsWire (.static _) (Sample.receivable_heartbeat rfl rfl ⟨_, rfl⟩) rfl ?_
    intro crcExtra hfits
    exact absurd (hfits.timestamp _ rfl) (UInt64.lt_irrefl _)

end Link

end Mavlink
