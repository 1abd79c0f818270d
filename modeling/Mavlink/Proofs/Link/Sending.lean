import Mavlink.Link.Outbox
import Mavlink.Proofs.Link.RoundTrip

/-!
# Sending is atomic

Sending in place appends to a stream piece by piece and changes a frame as it goes. The checks come
first and change nothing, and after them nothing can fail: so there is either the completed frame
and all of its bytes, or nothing has happened. What the checks look for is stated here apart from
the order in which they look for it.

## Main results

* `Outbox.run_send`, `Frame.run_fill`: working in place comes to the same as working on values.
* `Link.pack_eq_error_iff`: a frame that cannot be sent is refused for what hinders it first.
* `Link.isCompletedBy_of_pack`: what sending changes in a frame.
* `Outbox.send_atomic`: all of this of an outbox.
-/

namespace Mavlink

namespace Outbox

open Link (headerOf sentFlags complete)

/-! ### One step -/

section

variable (l : Link) (o : Outbox)

/-- Looking at an outbox changes nothing. -/
theorem run_get : (get : Work Outbox).run o = .ok o o :=
  rfl

/-- Bytes are added behind the stream. -/
theorem run_append (b : Bytes) : (append b).run o = .ok () { o with stream := o.stream ++ b } :=
  rfl

/-- What was added since a position is read back, and nothing is changed. -/
theorem run_appendedFrom (start : Nat) :
    (appendedFrom start).run o = .ok (o.stream.drop start) o :=
  rfl

/-- **The checks change nothing.** -/
theorem run_check : (check l).run o =
    if maxPayloadSize < o.frame.payload.length then
      .error (.payloadTooLarge o.frame.payload.length) o
    else if o.frame.version.maxMessageId < o.frame.messageId then
      .error (.messageIdOutOfRange o.frame.messageId o.frame.version) o
    else
      match l.registry.crcExtra? o.frame.messageId with
      | none => .error (.unknownMessage o.frame.messageId) o
      | some crcExtra =>
        match l.signing? o.frame with
        | .error e => .error e o
        | .ok signing? => .ok (crcExtra, signing?) o := by
  rw [check, EStateM.run_bind, run_get]
  dsimp only
  split
  · rfl
  · split
    · rfl
    · cases l.registry.crcExtra? o.frame.messageId with
      | none => rfl
      | some crcExtra => cases l.signing? o.frame <;> rfl

/-- Adding the header writes the flags that it is sent with into the frame. -/
theorem run_appendHeader (signed : Bool) : (appendHeader signed).run o =
    .ok () ⟨o.stream ++ (headerOf o.frame (sentFlags o.frame signed)).toBytes
        o.frame.payload.length,
      { o.frame with incompatFlags := sentFlags o.frame signed }⟩ := by
  obtain ⟨stream, version, _⟩ := o
  cases version <;> rfl

/-- Adding the checksum of what was added writes it into the frame. -/
theorem run_appendChecksum (start : Nat) (crcExtra : UInt8) :
    (appendChecksum start crcExtra).run o =
      let checksum := Crc.frame (o.stream.drop (start + 1)) crcExtra
      .ok () ⟨o.stream ++ Bytes.littleEndian 2 checksum.toNat, { o.frame with checksum }⟩ :=
  rfl

/-- Behind the marker of what has been appended stand the bytes that the checksum covers. -/
theorem drop_marker (stream : Bytes) (header : Header) (payload : Bytes) :
    (stream ++ header.toBytes payload.length ++ payload).drop (stream.length + 1) =
      Packet.checkedBytes header payload := by
  obtain ⟨tail, htail⟩ := header.toBytes_eq_cons payload.length
  rw [Packet.checkedBytes, List.append_assoc, ← List.drop_drop, List.drop_left, htail]
  rfl

/-- What has been appended with the checksum are the bytes that the signature covers. -/
theorem append_signedBytes (stream : Bytes) (header : Header) (payload : Bytes)
    (checksum : UInt16) :
    stream ++ header.toBytes payload.length ++ payload ++ Bytes.littleEndian 2 checksum.toNat =
      stream ++ Packet.signedBytes header payload checksum := by
  simp only [Packet.signedBytes, List.append_assoc]

/-- The last step makes the completed frame and its bytes. -/
theorem run_appendSignature (stream : Bytes) (f : Frame) (crcExtra : UInt8)
    (signing? : Option (Signature × SecretKey)) :
    let flags := sentFlags f signing?.isSome
    let checksum := Crc.frame (Packet.checkedBytes (headerOf f flags) f.payload) crcExtra
    (appendSignature stream.length signing?).run
        ⟨stream ++ Packet.signedBytes (headerOf f flags) f.payload checksum,
          { f with incompatFlags := flags, checksum }⟩ =
      .ok () ⟨stream ++ (complete f crcExtra signing?).bytes,
        (complete f crcExtra signing?).frame⟩ := by
  intro flags checksum
  cases signing? with
  | none => 
    rw [complete, Packet.toBytes, List.append_nil]
    rfl
  | some signing =>
    obtain ⟨s, key⟩ := signing
    rw [appendSignature, EStateM.run_bind, run_appendedFrom, List.drop_left, complete,
      Packet.toBytes, ← List.append_assoc]
    rfl

end

/-! ### All steps -/

/-- **What the steps make** once the checks have passed is the completed frame and its bytes. -/
theorem run_send_of_check {l : Link} {o : Outbox} {crcExtra : UInt8}
    {signing? : Option (Signature × SecretKey)} (h : (check l).run o = .ok (crcExtra, signing?) o) :
    (send l).run o = .ok (complete o.frame crcExtra signing?).bytes.length
      ⟨o.stream ++ (complete o.frame crcExtra signing?).bytes,
        (complete o.frame crcExtra signing?).frame⟩ := by
  obtain ⟨stream, f⟩ := o
  simp only [send, EStateM.run_bind, h, run_get, run_appendHeader, run_append, run_appendChecksum,
    drop_marker, append_signedBytes, run_appendSignature, EStateM.run_pure, List.length_append,
    Nat.add_sub_cancel_left]

/-- **Sending in place** is sending: a failure leaves the outbox alone. -/
theorem run_send (l : Link) (o : Outbox) : (send l).run o = match l.send o.stream o.frame with
    | .error e => .error e o
    | .ok sent => .ok sent.written ⟨sent.stream, sent.frame⟩ := by
  have hcheck := run_check l o
  have hfail : ∀ {e}, (check l).run o = .error e o → (send l).run o = .error e o := by
    intro e h
    rw [send, EStateM.run_bind, h]
  rw [Link.send, Link.pack]
  by_cases hpayload : maxPayloadSize < o.frame.payload.length
  · rw [if_pos hpayload] at hcheck ⊢
    exact hfail hcheck
  · rw [if_neg hpayload] at hcheck ⊢
    by_cases hid : o.frame.version.maxMessageId < o.frame.messageId
    · rw [if_pos hid] at hcheck ⊢
      exact hfail hcheck
    · rw [if_neg hid] at hcheck ⊢
      cases hextra : l.registry.crcExtra? o.frame.messageId with
      | none =>
          rw [hextra] at hcheck
          exact hfail hcheck
      | some crcExtra =>
          rw [hextra] at hcheck
          cases hsigning : l.signing? o.frame with
          | error e =>
              rw [hsigning] at hcheck
              exact hfail hcheck
          | ok signing? =>
              rw [hsigning] at hcheck
              exact run_send_of_check hcheck

section

variable {l : Link} {o o' : Outbox}

/-- Sending in place fails where sending does, and leaves the outbox alone. -/
theorem run_send_eq_error_iff {e : FrameError} :
    (send l).run o = .error e o' ↔ l.pack o.frame = .error e ∧ o' = o := by
  rw [run_send, Link.send]
  cases l.pack o.frame with
  | error e' => simp [eq_comm]
  | ok packed => simp

/-- Else the bytes of the frame are appended, and the frame is completed. -/
theorem run_send_eq_ok_iff {n : Nat} :
    (send l).run o = .ok n o' ↔ ∃ packed, l.pack o.frame = .ok packed ∧
      n = packed.bytes.length ∧ o' = ⟨o.stream ++ packed.bytes, packed.frame⟩ := by
  rw [run_send, Link.send]
  cases l.pack o.frame with
  | error e' => simp
  | ok packed => simp [eq_comm]

end

end Outbox

/-- **Filling in place** is filling: a failure leaves the frame alone. -/
theorem Frame.run_fill (l : Link) (f : Frame) (id : UInt32) (fields : Fields) :
    (Frame.fill l id fields).run f = match l.fill f id fields with
      | .error e => .error e f
      | .ok f' => .ok () f' := by
  rw [Link.fill, fill, EStateM.run_bind]
  cases l.registry.encodePayload id fields <;> rfl

/-! ### What hinders a frame from being sent -/

/-- The order in which the errors are looked for. -/
def FrameError.rank : FrameError → Nat
  | missingVersion => 0
  | payloadTooLarge _ => 1
  | messageIdOutOfRange _ _ => 2
  | unknownMessage _ => 3
  | signedV1 => 4
  | missingSignature => 5
  | signingKeyUnavailable _ _ _ => 6

namespace Link

/-- **What hinders** a frame from being sent over a link, and the error that says so. -/
inductive Hinders (l : Link) (f : Frame) : FrameError → Prop
  | payloadTooLarge (h : maxPayloadSize < f.payload.length) :
      Hinders l f (.payloadTooLarge f.payload.length)
  | messageIdOutOfRange (h : f.version.maxMessageId < f.messageId) :
      Hinders l f (.messageIdOutOfRange f.messageId f.version)
  | unknownMessage (h : l.registry.message? f.messageId = none) :
      Hinders l f (.unknownMessage f.messageId)
  | signedV1 (hv : f.version = .v1) (hsigned : f.isSigned = true) : Hinders l f .signedV1
  | missingSignature (hv : f.version = .v2) (hsigned : f.isSigned = true)
      (h : f.signature? = none) : Hinders l f .missingSignature
  | signingKeyUnavailable {s : Signature} (hv : f.version = .v2) (hsigned : f.isSigned = true)
      (hs : f.signature? = some s)
      (h : l.keys.key? ⟨f.systemId, f.componentId, s.linkId⟩ = none) :
      Hinders l f (.signingKeyUnavailable f.systemId f.componentId s.linkId)

/-- What hinders a frame **first**: nothing that is looked for earlier does. -/
def HindersFirst (l : Link) (f : Frame) (e : FrameError) : Prop :=
  l.Hinders f e ∧ ∀ e', l.Hinders f e' → e.rank ≤ e'.rank

section

variable {l : Link} {f : Frame} {e e' : FrameError}

/-- Two hindrances of one frame that are looked for at the same time are one. -/
theorem Hinders.eq_of_rank_eq (h : l.Hinders f e) (h' : l.Hinders f e') (hrank : e.rank = e'.rank) :
    e = e' := by
  cases h with
  | signingKeyUnavailable _ _ hs =>
      cases h' with
      | signingKeyUnavailable _ _ hs' => rw [Option.some.inj (hs.symm.trans hs')]
      | _ => cases hrank
  | _ =>
      cases h' with
      | _ => first | rfl | cases hrank

/-- What hinders a frame from being signed is looked for last. -/
theorem signing?_eq_error_iff : l.signing? f = .error e ↔ l.Hinders f e ∧ 4 ≤ e.rank := by
  constructor
  · intro herror
    rw [signing?] at herror
    split at herror
    · next hsigned =>
      split at herror
      · next hv =>
        obtain rfl := Except.error.inj herror
        exact ⟨.signedV1 hv hsigned, Nat.le_refl 4⟩
      · next hv hs =>
        obtain rfl := Except.error.inj herror
        exact ⟨.missingSignature hv hsigned hs, Nat.le_succ 4⟩
      · next s hv hs =>
        split at herror
        · next hkey =>
          obtain rfl := Except.error.inj herror
          exact ⟨.signingKeyUnavailable hv hsigned hs hkey, Nat.le_add_right 4 2⟩
        · cases herror
    · cases herror
  · rintro ⟨hhinders, hrank⟩
    rw [signing?]
    cases hhinders with
    | payloadTooLarge | messageIdOutOfRange | unknownMessage =>
        exact absurd hrank (Nat.not_le.2 (Nat.le_of_ble_eq_true rfl))
    | signedV1 hv hsigned => rw [if_pos hsigned, hv]
    | missingSignature hv hsigned h => rw [if_pos hsigned, hv, h]
    | signingKeyUnavailable hv hsigned hs h =>
        rw [if_pos hsigned, hv, hs]
        dsimp only
        rw [h]

/-- Nothing hinders a frame that is sent. -/
theorem not_hinders_of_pack {packed : Packed} (h : l.pack f = .ok packed) : ¬ l.Hinders f e := by
  obtain ⟨hpayload, hid, crcExtra, signing?, hextra, hsigning, -⟩ := pack_eq_ok_iff.1 h
  intro hhinders
  have herror := fun hrank => signing?_eq_error_iff.2 ⟨hhinders, hrank⟩
  rw [hsigning] at herror
  cases hhinders with
  | payloadTooLarge h => exact absurd h (Nat.not_lt.2 hpayload)
  | messageIdOutOfRange h => exact absurd h (UInt32.not_lt.2 hid)
  | unknownMessage h =>
      rw [Registry.crcExtra?, h] at hextra
      cases hextra
  | signedV1 | missingSignature | signingKeyUnavailable =>
      cases herror (Nat.le_of_ble_eq_true rfl)

/-- What hinders a frame that has passed the first `n` checks is looked for later. -/
theorem Hinders.lt_rank (h : l.Hinders f e) {n : Nat} (hn : n ≤ 3)
    (hpayload : 1 ≤ n → ¬ maxPayloadSize < f.payload.length)
    (hid : 2 ≤ n → ¬ f.version.maxMessageId < f.messageId)
    (hmessage : 3 ≤ n → l.registry.message? f.messageId ≠ none) : n < e.rank := by
  cases h with
  | payloadTooLarge h => exact Nat.lt_of_not_le fun hle => hpayload hle h
  | messageIdOutOfRange h => exact Nat.lt_of_not_le fun hle => hid hle h
  | unknownMessage h => exact Nat.lt_of_not_le fun hle => hmessage hle h
  | signedV1 | missingSignature | signingKeyUnavailable =>
      exact Nat.lt_of_le_of_lt hn (Nat.le_of_ble_eq_true rfl)

/-- **A failure names what hinders first.** -/
theorem hindersFirst_of_pack_eq_error (h : l.pack f = .error e) : l.HindersFirst f e := by
  rw [pack] at h
  split at h
  · next hpayload =>
    obtain rfl := Except.error.inj h
    exact ⟨.payloadTooLarge hpayload, fun e' h' => h'.lt_rank (Nat.zero_le 3)
      (absurd · (by decide)) (absurd · (by decide)) (absurd · (by decide))⟩
  · next hpayload =>
    split at h
    · next hid =>
      obtain rfl := Except.error.inj h
      exact ⟨.messageIdOutOfRange hid, fun e' h' => h'.lt_rank (Nat.le_add_right 1 2)
        (fun _ => hpayload) (absurd · (by decide)) (absurd · (by decide))⟩
    · next hid =>
      split at h
      · next hextra =>
        obtain rfl := Except.error.inj h
        exact ⟨.unknownMessage (Option.map_eq_none_iff.1 hextra), fun e' h' =>
          h'.lt_rank (Nat.le_add_right 2 1) (fun _ => hpayload) (fun _ => hid)
            (absurd · (by decide))⟩
      · next crcExtra hextra =>
        split at h
        · next hsigning =>
          obtain rfl := Except.error.inj h
          refine ⟨(signing?_eq_error_iff.1 hsigning).1, fun e' h' => Nat.le_of_eq ?_⟩
          have hmessage : l.registry.message? f.messageId ≠ none := by
            intro hnone
            rw [Registry.crcExtra?, hnone] at hextra
            cases hextra
          have hrank := h'.lt_rank (Nat.le_refl 3) (fun _ => hpayload) (fun _ => hid)
            fun _ => hmessage
          have herror := signing?_eq_error_iff.2 ⟨h', hrank⟩
          rw [hsigning] at herror
          exact congrArg FrameError.rank (Except.error.inj herror)
        · cases h

/-- **Packing fails** exactly with the first of the things that hinder a frame. -/
theorem pack_eq_error_iff : l.pack f = .error e ↔ l.HindersFirst f e := by
  refine ⟨hindersFirst_of_pack_eq_error, fun ⟨hhinders, hfirst⟩ => ?_⟩
  cases hpack : l.pack f with
  | ok packed => exact absurd hhinders (not_hinders_of_pack hpack)
  | error e' =>
      obtain ⟨hhinders', hfirst'⟩ := hindersFirst_of_pack_eq_error hpack
      have hrank := Nat.le_antisymm (hfirst e' hhinders') (hfirst' e hhinders)
      rw [hhinders.eq_of_rank_eq hhinders' hrank]

/-- A frame that nothing hinders is sent. -/
theorem exists_pack_iff : (∃ packed, l.pack f = .ok packed) ↔ ∀ e, ¬ l.Hinders f e := by
  constructor
  · rintro ⟨packed, hpack⟩ e
    exact not_hinders_of_pack hpack
  · intro hfree
    cases hpack : l.pack f with
    | ok packed => exact ⟨packed, rfl⟩
    | error e => exact absurd (hindersFirst_of_pack_eq_error hpack).1 (hfree e)

end

end Link

/-! ### What sending changes -/

/-- A frame `f` **is completed by** a frame `f'` that differs from it only in what sending works
out: the checksum, the outcome, in the second version the flag that announces a signature, and in a
frame that is signed the digest. -/
structure Frame.IsCompletedBy (f f' : Frame) : Prop where
  rest_eq : { f' with
    incompatFlags := f.incompatFlags, checksum := f.checksum, signature? := f.signature?,
    outcome := f.outcome } = f
  flags_v1 : f.version = .v1 → f'.incompatFlags = f.incompatFlags
  flags_v2 : f.version = .v2 →
    f'.incompatFlags &&& ~~~signedFlag = f.incompatFlags &&& ~~~signedFlag
  signature_unsigned : f.isSigned = false → f'.signature? = f.signature?
  signature_signed : f.isSigned = true → ∃ s digest, f.signature? = some s ∧
    f'.signature? = some { s with digest }

/-- Nothing but the flag that announces a signature is changed in the flags. -/
theorem Link.sentFlags_and_not (f : Frame) (signed : Bool) :
    sentFlags f signed &&& ~~~signedFlag = f.incompatFlags &&& ~~~signedFlag := by
  rw [sentFlags]
  cases f.version with
  | v1 => rfl
  | v2 =>
      cases signed with
      | true =>
          show (f.incompatFlags ||| signedFlag) &&& ~~~signedFlag = _
          refine UInt8.toBitVec_inj.1 ?_
          rw [UInt8.toBitVec_and, UInt8.toBitVec_or, BitVec.and_or_distrib_right,
            ← UInt8.toBitVec_and, ← UInt8.toBitVec_and, UInt8.and_not_self]
          exact BitVec.or_zero
      | false =>
          show (f.incompatFlags &&& ~~~signedFlag) &&& ~~~signedFlag = _
          rw [UInt8.and_assoc, UInt8.and_self]

/-- Packing changes in a frame only what completes it. -/
theorem Link.isCompletedBy_of_pack {l : Link} {f : Frame} {packed : Packed}
    (h : l.pack f = .ok packed) : f.IsCompletedBy packed.frame := by
  obtain ⟨-, -, crcExtra, signing?, -, hsigning, rfl⟩ := pack_eq_ok_iff.1 h
  have hv1 : f.version = .v1 → sentFlags f signing?.isSome = f.incompatFlags := by
    intro hv
    rw [sentFlags, hv]
  cases signing? with
  | none =>
      have hsigned := signing?_eq_ok_none_iff.1 hsigning
      exact ⟨rfl, hv1, fun _ => sentFlags_and_not f false, fun _ => rfl, fun htrue =>
        absurd (htrue.symm.trans hsigned) Bool.noConfusion⟩
  | some signing =>
      obtain ⟨s, key⟩ := signing
      obtain ⟨hsigned, -, hs, -⟩ := signing?_eq_ok_some_iff.1 hsigning
      exact ⟨rfl, hv1, fun _ => sentFlags_and_not f true, fun hfalse =>
        absurd (hfalse.symm.trans hsigned) Bool.noConfusion, fun _ => ⟨s, _, hs, rfl⟩⟩

/-- **Sending is atomic.** It fails exactly if something hinders the frame from being sent, with the
error that is looked for first, and then the stream and the frame are as before. Else the stream has
grown by the number of bytes that is returned, and the frame has been completed. Filling a frame
fails exactly if the payload cannot be encoded, and then the frame is as before; else its payload
and its message id have been replaced. -/
theorem Outbox.send_atomic (l : Link) (o : Outbox) :
    (∀ e o', (send l).run o = .error e o' ↔ l.HindersFirst o.frame e ∧ o' = o) ∧
    ((∃ n o', (send l).run o = .ok n o') ↔ ∀ e, ¬ l.Hinders o.frame e) ∧
    (∀ n o', (send l).run o = .ok n o' →
      (∃ appended, o'.stream = o.stream ++ appended ∧ n = appended.length) ∧
        o.frame.IsCompletedBy o'.frame) ∧
    ∀ id fields,
      (∀ e f', (Frame.fill l id fields).run o.frame = .error e f' ↔
        l.registry.encodePayload id fields = .error e ∧ f' = o.frame) ∧
      ∀ u f', (Frame.fill l id fields).run o.frame = .ok u f' ↔
        ∃ payload, l.registry.encodePayload id fields = .ok payload ∧
          f' = { o.frame with payload, messageId := id } := by
  refine ⟨fun e o' => ?_, ?_, fun n o' hok => ?_, fun id fields => ⟨fun e f' => ?_, fun u f' => ?_⟩⟩
  · rw [run_send_eq_error_iff, Link.pack_eq_error_iff]
  · rw [← Link.exists_pack_iff]
    constructor
    · rintro ⟨n, o', hok⟩
      obtain ⟨packed, hpack, -, -⟩ := run_send_eq_ok_iff.1 hok
      exact ⟨packed, hpack⟩
    · rintro ⟨packed, hpack⟩
      exact ⟨_, _, run_send_eq_ok_iff.2 ⟨packed, hpack, rfl, rfl⟩⟩
  · obtain ⟨packed, hpack, rfl, rfl⟩ := run_send_eq_ok_iff.1 hok
    exact ⟨⟨packed.bytes, rfl, rfl⟩, Link.isCompletedBy_of_pack hpack⟩
  · rw [Frame.run_fill, Link.fill]
    cases l.registry.encodePayload id fields with
    | error e' => simp [eq_comm]
    | ok payload => simp
  · rw [Frame.run_fill, Link.fill]
    cases l.registry.encodePayload id fields with
    | error e' => simp
    | ok payload => simp [eq_comm]

/-- A signed heartbeat is refused where there is no key for it, and else completed. -/
theorem Outbox.send_atomic_heartbeat :
    (send ⟨Sample.registry, .none⟩).run ⟨[1], Sample.signedHeartbeat⟩ =
        .error (.signingKeyUnavailable 1 2 3) ⟨[1], Sample.signedHeartbeat⟩ ∧
      ∃ n o', (send ⟨Sample.registry, .static (.ofText "key")⟩).run ⟨[1], Sample.signedHeartbeat⟩ =
          .ok n o' ∧
        (∃ appended, o'.stream = [1] ++ appended ∧ n = appended.length) ∧
        Sample.signedHeartbeat.IsCompletedBy o'.frame := by
  have hmessage : (Sample.registry.message? 0).isSome := by decide +kernel
  have hhinders : ∀ {keys e}, Link.Hinders ⟨Sample.registry, keys⟩ Sample.signedHeartbeat e →
      e = .signingKeyUnavailable 1 2 3 ∧ keys.key? ⟨1, 2, 3⟩ = none := by
    intro keys e h
    cases h with
    | payloadTooLarge h | messageIdOutOfRange h => exact absurd h (by decide)
    | unknownMessage h =>
        rw [show Sample.registry.message? 0 = none from h] at hmessage
        cases hmessage
    | signedV1 hv => cases hv
    | missingSignature _ _ h => cases h
    | signingKeyUnavailable _ _ hs h =>
        obtain rfl := Option.some.inj hs
        exact ⟨rfl, h⟩
  constructor
  · refine ((send_atomic _ _).1 _ _).2 ⟨⟨?_, ?_⟩, rfl⟩
    · exact .signingKeyUnavailable (f := Sample.signedHeartbeat) rfl rfl rfl rfl
    · intro e' h'
      exact Nat.le_of_eq (congrArg FrameError.rank (hhinders h').1.symm)
  · obtain ⟨-, hsent, hcompleted, -⟩ :=
      send_atomic ⟨Sample.registry, .static (.ofText "key")⟩ ⟨[1], Sample.signedHeartbeat⟩
    obtain ⟨n, o', hok⟩ := hsent.2 fun e h => nomatch (hhinders h).2
    exact ⟨n, o', hok, hcompleted n o' hok⟩

end Mavlink
