import Mavlink.Pipeline
import Mavlink.Proofs.Link.Candidate

/-!
# The pipeline never fails

The bytes of a frame are used up before its payload is looked into, so a payload that could not be
read would be lost. It always can be read if the message of the frame fits: the receiver accepts
only frames of known messages, and asks for at least as many bytes as reading needs. For the second
version the two lengths are the same; for the first the receiver asks for the full payload, which is
not shorter in a layout that fits. In one that does not fit it may be, and then the frame is lost.

## Main results

* `Link.exists_fields_of_scan`: the payload of a found frame can be read.
* `Pipeline.unpack_eq`: what a step makes of the bytes, whatever the monitor remembers.
* `Pipeline.link_run`: no call changes the dialect or the keys.
* `Pipeline.unpack_after_run`: the same for a pipeline that has been used in any way.
* `Pipeline.unpack_of_wrapped`: a frame of a message that does not fit is lost.
-/

namespace Mavlink

/-! ### Found frames can be read -/

namespace Link

variable {d : Dialect} {l : Link}

/-- A link **finds fitting** frames in a buffer if the message of the frame that it finds, if any,
fits. -/
def FindsFitting (l : Link) (b : Bytes) : Prop :=
  ∀ f m, (l.scan b).1 = some f → l.registry.message? f.messageId = some m → m.Fits

/-- In a dialect that fits, every frame is fitting. -/
theorem findsFitting_of_fits (h : l.registry.Fits) (b : Bytes) : l.FindsFitting b :=
  fun _ _ _ hm => h.of_message? hm

/-- **A found frame** is one of a known message, and its payload has all base fields, if the message
fits. -/
theorem exists_message_of_scan (hr : Registry.compile d = .ok l.registry) {b rest : Bytes}
    {f : Frame} (hfits : l.FindsFitting b) (h : l.scan b = (some f, rest)) :
    ∃ m, l.registry.message? f.messageId = some m ∧ m.minSize ≤ f.payload.length := by
  obtain ⟨skipped, p, -, -, haccept⟩ := exists_packet_of_scan h
  obtain ⟨least, crcExtra, hleast, -, hlen, rfl⟩ := accept?_eq_some_iff.1 haccept
  obtain ⟨m, hm, rfl⟩ := Option.map_eq_some_iff.1 hleast
  obtain ⟨base, extensions, hplace⟩ :=
    Registry.placement_of_message? hr hm (hfits _ m (congrArg Prod.fst h) hm)
  refine ⟨m, hm, Nat.le_trans ?_ hlen⟩
  cases p.header.version with
  | v1 => exact hplace.minSize_le_maxSize
  | v2 => exact Nat.le_refl m.minSize

/-- **The payload of a found frame can be read**, if its message fits. -/
theorem exists_fields_of_scan (hr : Registry.compile d = .ok l.registry) {b rest : Bytes}
    {f : Frame} (hfits : l.FindsFitting b) (h : l.scan b = (some f, rest)) :
    ∃ fields, l.fieldsOf f = .ok fields := by
  obtain ⟨m, hm, hlen⟩ := exists_message_of_scan hr hfits h
  exact ⟨m.read f.payload, (Registry.decodePayload_eq_ok_iff hm).2 ⟨hlen, rfl⟩⟩

end Link

namespace Pipeline

/-! ### One frame -/

/-- What a pipeline reports of a frame that came over a stream, and what it becomes. -/
structure Processes (p : Pipeline) (streamId : String) (f : Frame) (now : Nat) (out : Processed)
    (next : Pipeline) : Prop where
  frame_eq : out.frame = f
  /-- The message is known, so there is a name. -/
  name_eq : ∃ m, p.link.registry.message? f.messageId = some m ∧ out.name? = some m.name
  isValid_eq : out.isValid = f.isValid
  link_eq : next.link = p.link
  /-- A frame that may be used is looked into. -/
  of_isValid : f.isValid = true →
    p.link.registry.decodePayload f.messageId f.payload = .ok out.fields ∧
      p.monitor.observe f streamId now = (out.detections, next.monitor)
  /-- Of any other frame the monitor learns the reason. -/
  of_not_isValid : f.isValid = false →
    out.fields = ∅ ∧ ∃ reason, FailureReason.ofOutcome? f.outcome = some reason ∧
      p.monitor.observeInvalid f.systemId streamId now reason = (out.detections, next.monitor)

section Process

variable {p : Pipeline} {f : Frame} {streamId : String} {now : Nat}

/-- What becomes of a frame that may be used. -/
theorem process_of_isValid (hvalid : f.isValid = true) {fields : Fields}
    (hfields : p.link.fieldsOf f = .ok fields) :
    p.process streamId f now =
      (.ok { name? := p.link.messageName? f.messageId, frame := f, fields, isValid := true,
             detections := (p.monitor.observe f streamId now).1 },
        { p with monitor := (p.monitor.observe f streamId now).2 }) := by
  have hreason : FailureReason.ofOutcome? f.outcome = none :=
    FailureReason.ofOutcome?_eq_none_iff.2 hvalid
  rw [process, hreason]
  dsimp only
  rw [hfields]

/-- What becomes of a frame that may not be used, for the given reason. -/
theorem process_of_reason {reason : FailureReason}
    (hreason : FailureReason.ofOutcome? f.outcome = some reason) :
    p.process streamId f now =
      (.ok { name? := p.link.messageName? f.messageId, frame := f, fields := ∅, isValid := false,
             detections := (p.monitor.observeInvalid f.systemId streamId now reason).1 },
        { p with monitor := (p.monitor.observeInvalid f.systemId streamId now reason).2 }) := by
  rw [process, hreason]

/-- **A frame of a known message whose payload can be read** is always reported. -/
theorem exists_processes {m : Layout} (hm : p.link.registry.message? f.messageId = some m)
    {fields : Fields} (hfields : p.link.fieldsOf f = .ok fields) :
    ∃ out, (p.process streamId f now).1 = .ok out ∧
      p.Processes streamId f now out (p.process streamId f now).2 := by
  have hname : p.link.messageName? f.messageId = some m.name := congrArg (Option.map _) hm
  cases hreason : FailureReason.ofOutcome? f.outcome with
  | none =>
      have hvalid : f.isValid = true := FailureReason.ofOutcome?_eq_none_iff.1 hreason
      rw [process_of_isValid hvalid hfields]
      refine ⟨_, rfl, rfl, ⟨m, hm, hname⟩, hvalid.symm, rfl, ?_, ?_⟩
      · intro _
        exact ⟨hfields, rfl⟩
      · intro hinvalid
        rw [hvalid] at hinvalid
        contradiction
  | some reason =>
      have hinvalid : f.isValid = false := by
        rw [← Bool.not_eq_true, Frame.isValid, ← FailureReason.ofOutcome?_eq_none_iff, hreason]
        exact Option.some_ne_none reason
      rw [process_of_reason hreason]
      refine ⟨_, rfl, rfl, ⟨m, hm, hname⟩, hinvalid.symm, rfl, ?_, ?_⟩
      · intro hvalid
        rw [hinvalid] at hvalid
        contradiction
      · intro _
        exact ⟨rfl, reason, hreason, rfl⟩

end Process

/-! ### One step -/

/-- What a step of a pipeline does with the bytes of a stream. -/
structure Unpacks (p : Pipeline) (streamId : String) (buffer : Bytes) (now : Nat) (s : Step) :
    Prop where
  /-- The bytes that are kept are those that the receiver keeps. -/
  buffer_eq : s.buffer = (p.link.scan buffer).2
  /-- A step never fails. -/
  exists_answer : ∃ out?, s.answer = .ok out?
  /-- A step has nothing to report exactly if no frame has arrived. -/
  answer_eq_none_iff : s.answer = .ok none ↔ (p.link.scan buffer).1 = none
  /-- If no frame has arrived, nothing changes. -/
  of_none : (p.link.scan buffer).1 = none → s.pipeline = p
  /-- A frame that has arrived is processed. -/
  of_some : ∀ f, (p.link.scan buffer).1 = some f →
    ∃ out, s.answer = .ok (some out) ∧ p.Processes streamId f now out s.pipeline

/-- A step when no frame has arrived. -/
theorem unpack_of_none {p : Pipeline} {streamId : String} {buffer rest : Bytes} {now : Nat}
    (h : p.link.scan buffer = (none, rest)) :
    p.unpack streamId buffer now = { answer := .ok none, buffer := rest, pipeline := p } := by
  rw [unpack, h]

/-- A step when a frame has arrived. -/
theorem unpack_of_some {p : Pipeline} {streamId : String} {buffer rest : Bytes} {now : Nat}
    {f : Frame} (h : p.link.scan buffer = (some f, rest)) :
    p.unpack streamId buffer now =
      { answer := (p.process streamId f now).1.map some, buffer := rest,
        pipeline := (p.process streamId f now).2 } := by
  rw [unpack, h]

/-- **What a step does**, whatever the monitor remembers, if it finds a frame of a message that
fits, or none. -/
theorem unpacks_unpack {d : Dialect} {p : Pipeline}
    (hr : Registry.compile d = .ok p.link.registry) (streamId : String) {buffer : Bytes}
    (hfits : p.link.FindsFitting buffer) (now : Nat) :
    p.Unpacks streamId buffer now (p.unpack streamId buffer now) := by
  rcases hscan : p.link.scan buffer with ⟨frame?, rest⟩
  cases frame? with
  | none =>
      rw [unpack_of_none hscan]
      refine ⟨?_, ⟨none, rfl⟩, ?_, ?_, ?_⟩
      · rw [hscan]
      · rw [hscan]
        exact iff_of_true rfl rfl
      · intro _
        rfl
      · intro f hf
        rw [hscan] at hf
        contradiction
  | some f =>
      obtain ⟨m, hm, -⟩ := Link.exists_message_of_scan hr hfits hscan
      obtain ⟨fields, hfields⟩ := Link.exists_fields_of_scan hr hfits hscan
      obtain ⟨out, hout, hprocesses⟩ : ∃ out, (p.process streamId f now).1 = .ok out ∧
          p.Processes streamId f now out (p.process streamId f now).2 :=
        exists_processes hm hfields
      rw [unpack_of_some hscan, hout]
      refine ⟨?_, ⟨some out, rfl⟩, ?_, ?_, ?_⟩
      · rw [hscan]
      · rw [hscan]
        refine iff_of_false ?_ (Option.some_ne_none f)
        intro hnone
        cases hnone
      · intro hnone
        rw [hscan] at hnone
        contradiction
      · intro f' hf
        rw [hscan] at hf
        obtain rfl := Option.some.inj hf
        exact ⟨out, rfl, hprocesses⟩

/-! ### Any calls -/

/-- What can be done with a pipeline. -/
inductive Call
  /-- The bytes of a stream are looked at. -/
  | unpack (streamId : String) (buffer : Bytes) (now : Nat)
  /-- What has been silent too long is forgotten. -/
  | sweep (now : Nat)
  /-- The monitor is lent out, and comes back in some state. -/
  | lend (monitor : Monitor)

/-- The pipeline after a call. -/
def call (p : Pipeline) : Call → Pipeline
  | .unpack streamId buffer now => (p.unpack streamId buffer now).pipeline
  | .sweep now => (p.sweep now).2
  | .lend monitor => { p with monitor }

/-- The pipeline after several calls. -/
def run (p : Pipeline) (calls : List Call) : Pipeline :=
  calls.foldl call p

/-- Processing a frame changes neither the dialect nor the keys. -/
theorem link_process (p : Pipeline) (streamId : String) (f : Frame) (now : Nat) :
    (p.process streamId f now).2.link = p.link := by
  rw [process]
  split
  · split <;> rfl
  · rfl

/-- A call changes neither the dialect nor the keys. -/
theorem link_call (p : Pipeline) (c : Call) : (p.call c).link = p.link := by
  cases c with
  | unpack streamId buffer now =>
      rcases hscan : p.link.scan buffer with ⟨frame?, rest⟩
      rw [call]
      cases frame? with
      | none => rw [unpack_of_none hscan]
      | some f =>
          rw [unpack_of_some hscan]
          exact link_process p streamId f now
  | sweep now => rfl
  | lend monitor => rfl

/-- No calls change the dialect or the keys. -/
theorem link_run (p : Pipeline) (calls : List Call) : (p.run calls).link = p.link := by
  induction calls generalizing p with
  | nil => rfl
  | cons c calls ih => exact (ih (p.call c)).trans (link_call p c)

/-- **The pipeline never fails**, unless it finds a frame of a message that does not fit. Whatever
has been done with a pipeline for a compiled dialect, its next step does with the bytes of a stream
what it should: it answers without an error, reports the frame that the receiver finds, if there is
one, and looks into its payload exactly if the frame may be used. -/
theorem unpack_after_run (d : Dialect) (registry : Registry) (keys : KeyProvider)
    (conf : MonitorConf) (calls : List Call) (hr : Registry.compile d = .ok registry)
    (streamId : String) (buffer : Bytes) (hfits : Link.FindsFitting ⟨registry, keys⟩ buffer)
    (now : Nat) :
    ((new ⟨registry, keys⟩ conf).run calls).Unpacks streamId buffer now
      (((new ⟨registry, keys⟩ conf).run calls).unpack streamId buffer now) := by
  have hlink : ((new ⟨registry, keys⟩ conf).run calls).link = ⟨registry, keys⟩ :=
    link_run _ calls
  refine unpacks_unpack (d := d) ?_ streamId ?_ now
  · rw [hlink]
    exact hr
  · rw [hlink]
    exact hfits

end Pipeline

namespace Sample

/-- The bytes of a frame of the first version, with five zero bytes as its payload, of the message
whose extension field does not fit. -/
def wrappedFrame : Bytes :=
  [0xfe, 5, 7, 1, 1, 1, 0, 0, 0, 0, 0, 0xc1, 0x27]

end Sample

namespace Pipeline

/-- A heartbeat that comes after a sweep is reported as one that may be used. -/
theorem unpack_after_run_heartbeat :
    ∃ out, (((new Sample.link {}).run [.sweep 1]).unpack "udp" Sample.heartbeatBytes 2).answer =
        .ok (some out) ∧ out.isValid = true := by
  have hunpacks := unpack_after_run Sample.dialect Sample.registry .none {} [.sweep 1]
    Sample.compile_dialect "udp" Sample.heartbeatBytes
    (Link.findsFitting_of_fits Sample.fits_registry _) 2
  have hvalid : (Sample.link.scan Sample.heartbeatBytes).1.map Frame.isValid = some true := by
    decide +kernel
  obtain ⟨f, hf, hvalid⟩ := Option.map_eq_some_iff.1 hvalid
  obtain ⟨out, hout, hprocesses⟩ := hunpacks.of_some f hf
  exact ⟨out, hout, hprocesses.isValid_eq.trans hvalid⟩

/-- A frame of the first version of a message that does not fit has as many bytes as the receiver
asks for, but fewer than its base fields take: it may be used, but the pipeline fails, and its bytes
are gone. -/
theorem unpack_of_wrapped :
    Registry.compile { name := "wrapped", messages := [Sample.wrappedExtension], enums := [] } =
        .ok (Sample.registryOf Sample.wrappedExtension) ∧
      ((Link.scan ⟨Sample.registryOf Sample.wrappedExtension, .none⟩
        Sample.wrappedFrame).1.map fun f => (f.isValid, f.payload)) =
          some (true, Bytes.zeros 5) ∧
      (match ((new ⟨Sample.registryOf Sample.wrappedExtension, .none⟩ {}).unpack "udp"
          Sample.wrappedFrame 0).answer with
        | .ok _ => none
        | .error e => some e) = some (.payload (.tooShort "WRAPPED" 10 5)) ∧
      ((new ⟨Sample.registryOf Sample.wrappedExtension, .none⟩ {}).unpack "udp"
          Sample.wrappedFrame 0).buffer = [] := by
  refine ⟨(Sample.compile_wrapped _ (by decide)).1, ?_⟩
  decide +kernel

end Pipeline

end Mavlink
