import Mavlink.Frame.Basic
import Mavlink.Sha256
import Mavlink.Text.Utf8

/-!
# Signing

Frames are signed with secret keys: the digest of a frame is the beginning of the hash of its bytes
followed by the key. Keys are found through a `KeyProvider`, which says for every sender and link
which key applies, and whether signatures of received frames can be checked at all.
-/

namespace Mavlink

/-- A secret key. -/
structure SecretKey where
  bytes : Vector UInt8 32
  deriving DecidableEq

namespace SecretKey

/-- The key made of the given bytes, cut or filled up with zero bytes. -/
def ofBytes (b : Bytes) : SecretKey :=
  ⟨b.toVector 32⟩

/-- The key made of the UTF-8 bytes of a text. -/
def ofText (s : String) : SecretKey :=
  ofBytes (Text.bytes s)

/-- What is shown of a key. -/
def display (_ : SecretKey) : String :=
  "SecretKey(**redacted**)"

/-- The digest of signed bytes under the key. -/
def digest (key : SecretKey) (signed : Bytes) : Digest :=
  Digest.ofBytes (Sha256.hash (signed ++ key.bytes.toList))

end SecretKey

/-- The sender and the link that a key is for. -/
structure KeyAddress where
  systemId : UInt8
  componentId : UInt8
  linkId : UInt8
  deriving DecidableEq, Repr

/-- A source of signing keys. -/
structure KeyProvider where
  /-- Whether signatures of received frames are checked. -/
  canValidate : Bool
  /-- The key for a sender and a link. -/
  key? : KeyAddress → Option SecretKey

/-- Signing keys by sender and link; at most one key for each. -/
structure KeyMap where
  entries : List (KeyAddress × SecretKey)
  deriving DecidableEq

namespace KeyMap

/-- The map without keys. -/
def empty : KeyMap := ⟨[]⟩

/-- The key at an address. -/
def key? (m : KeyMap) (a : KeyAddress) : Option SecretKey :=
  (m.entries.find? fun e => e.1 = a).map (·.2)

/-- The map without the key at an address. -/
def unregister (m : KeyMap) (a : KeyAddress) : KeyMap :=
  ⟨m.entries.filter fun e => e.1 ≠ a⟩

/-- The map with the key at an address set. -/
def register (m : KeyMap) (a : KeyAddress) (key : SecretKey) : KeyMap :=
  ⟨(a, key) :: (m.unregister a).entries⟩

/-- The number of keys. -/
def size (m : KeyMap) : Nat :=
  m.entries.length

/-- Whether there are no keys. -/
def isEmpty (m : KeyMap) : Bool :=
  m.entries.isEmpty

/-- What is shown of the map. -/
def display (m : KeyMap) : String :=
  s!"SigningKeyMap \x7b len: {m.size}, .. \x7d"

end KeyMap

namespace KeyProvider

/-- No keys at all: signed frames are taken as unsigned ones. -/
def none : KeyProvider :=
  ⟨false, fun _ => .none⟩

/-- One key for every sender and link. -/
def static (key : SecretKey) : KeyProvider :=
  ⟨true, fun _ => some key⟩

/-- The keys of a map. -/
def ofMap (m : KeyMap) : KeyProvider :=
  ⟨true, m.key?⟩

end KeyProvider

end Mavlink
