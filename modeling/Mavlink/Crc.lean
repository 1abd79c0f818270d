import Mavlink.Bytes

/-!
# The frame checksum

Frames are guarded by CRC-16/MCRF4XX: the register starts at `0xFFFF`, bytes enter at the low
end, and the result is the register itself. `step` takes in one byte with four shifts of an
8-bit remainder. `serialStep` is the textbook form of the same code, one bit at a time with the
reflected polynomial `0x8408`.

A frame's checksum covers its bytes and then one extra byte that depends on the layout of the
message (`frame`), so that two peers with different layouts reject each other's frames.

## Main results

* `update_append`: the checksum does not depend on how the bytes are cut into chunks.
-/

namespace Mavlink.Crc

/-- The register before any byte. -/
def start : UInt16 := 0xFFFF

/-- The register after one more byte. -/
def step (register : UInt16) (byte : UInt8) : UInt16 :=
  let low := byte ^^^ register.toUInt8
  let mixed := (low ^^^ (low <<< 4)).toUInt16
  (register >>> 8) ^^^ (mixed <<< 8) ^^^ (mixed <<< 3) ^^^ (mixed >>> 4)

/-- The register after more bytes. -/
def update (register : UInt16) (bytes : Bytes) : UInt16 :=
  bytes.foldl step register

/-- The checksum of a frame's bytes, closed by the extra byte of its message. -/
def frame (bytes : Bytes) (extra : UInt8) : UInt16 :=
  step (update start bytes) extra

/-- No bytes leave the register as it is. -/
@[simp] theorem update_nil (register : UInt16) : update register [] = register := rfl

/-- The checksum does not depend on how the bytes are cut. -/
theorem update_append (register : UInt16) (front rest : Bytes) :
    update register (front ++ rest) = update (update register front) rest :=
  List.foldl_append

/-! ### One bit at a time -/

/-- The reflected generator polynomial. -/
def polynomial : UInt16 := 0x8408

/-- Shifts one bit out, and adds the polynomial if it was set. -/
def shiftBit (register : UInt16) : UInt16 :=
  if register &&& 1 = 1 then (register >>> 1) ^^^ polynomial else register >>> 1

/-- Takes one byte in by eight single-bit shifts. -/
def serialStep (register : UInt16) (byte : UInt8) : UInt16 :=
  Nat.repeat shiftBit 8 (register ^^^ byte.toUInt16)

/-- The checksum of a byte string, bit by bit, from a register of ones. -/
def serial (bytes : Bytes) : UInt16 :=
  bytes.foldl serialStep 0xFFFF

end Mavlink.Crc
