/-!
# Protocol versions

The two versions of the protocol differ in the marker that starts a frame, in the length of the
header, and in the range of message ids that the header can carry.
-/

namespace Mavlink

/-- A version of the protocol. -/
inductive Version
  | v1
  | v2
  deriving DecidableEq, Repr

namespace Version

/-- The name of the version. -/
def name : Version → String
  | v1 => "V1"
  | v2 => "V2"

/-- The number by which the version enters a fingerprint. -/
def ordinal : Version → Nat
  | v1 => 0
  | v2 => 1

/-- The byte that starts a frame. -/
def marker : Version → UInt8
  | v1 => 0xfe
  | v2 => 0xfd

/-- The version of the frame that a marker starts. -/
def ofMarker? (b : UInt8) : Option Version :=
  if b = marker v1 then some v1 else if b = marker v2 then some v2 else none

/-- The number of header bytes, the marker included. -/
def headerSize : Version → Nat
  | v1 => 6
  | v2 => 10

/-- The greatest message id that the header can carry. -/
def maxMessageId : Version → UInt32
  | v1 => 0xff
  | v2 => 0xffffff

/-- A version is found by its marker. -/
@[simp] theorem ofMarker?_marker (v : Version) : ofMarker? v.marker = some v := by
  cases v <;> rfl

/-- A byte stands for a version exactly if it is its marker. -/
theorem ofMarker?_eq_some_iff {b : UInt8} {v : Version} :
    ofMarker? b = some v ↔ b = v.marker := by
  constructor
  · intro h
    simp only [ofMarker?] at h
    grind
  · rintro rfl
    exact ofMarker?_marker v

end Version

/-- The greatest length of a payload in bytes. -/
def maxPayloadSize : Nat := 255

end Mavlink
