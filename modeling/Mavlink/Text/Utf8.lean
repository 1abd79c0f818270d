import Mavlink.Bytes

/-!
# Texts as bytes

Texts travel as UTF-8. Reading never fails: where the bytes are not UTF-8, each longest run that
begins a character but does not complete it, and each byte that begins none, becomes one
replacement character.
-/

namespace Mavlink.Text

/-- The UTF-8 bytes of a text. -/
def bytes (s : String) : Bytes :=
  s.toList.flatMap String.utf8EncodeChar

/-- The character that stands for bytes that are not UTF-8. -/
def replacement : Char := '\uFFFD'

/-- Whether the byte continues a character. -/
def isTail (b : UInt8) : Bool :=
  0x80 ≤ b && b ≤ 0xbf

/-- Whether the byte may follow the first byte of a character of three bytes: overlong forms and
surrogates are excluded. -/
def isSecondOfThree (first b : UInt8) : Bool :=
  (if first = 0xe0 then 0xa0 else 0x80) ≤ b && b ≤ (if first = 0xed then 0x9f else 0xbf)

/-- Whether the byte may follow the first byte of a character of four bytes: overlong forms and
numbers beyond the last code point are excluded. -/
def isSecondOfFour (first b : UInt8) : Bool :=
  (if first = 0xf0 then 0x90 else 0x80) ≤ b && b ≤ (if first = 0xf4 then 0x8f else 0xbf)

/-- The six bits that a continuation byte carries. -/
def tailBits (b : UInt8) : Nat :=
  b.toNat % 64

/-- The characters that the bytes encode, with replacements where they encode none. -/
def decode : Bytes → List Char
  | [] => []
  | a :: rest =>
    if a < 0x80 then
      Char.ofNat a.toNat :: decode rest
    else if 0xc2 ≤ a && a ≤ 0xdf then
      match rest with
      | [] => [replacement]
      | b :: rest =>
        if isTail b then Char.ofNat (a.toNat % 32 * 64 + tailBits b) :: decode rest
        else replacement :: decode (b :: rest)
    else if 0xe0 ≤ a && a ≤ 0xef then
      match rest with
      | [] => [replacement]
      | b :: rest =>
        if isSecondOfThree a b then
          match rest with
          | [] => [replacement]
          | c :: rest =>
            if isTail c then
              Char.ofNat ((a.toNat % 16 * 64 + tailBits b) * 64 + tailBits c) :: decode rest
            else replacement :: decode (c :: rest)
        else replacement :: decode (b :: rest)
    else if 0xf0 ≤ a && a ≤ 0xf4 then
      match rest with
      | [] => [replacement]
      | b :: rest =>
        if isSecondOfFour a b then
          match rest with
          | [] => [replacement]
          | c :: rest =>
            if isTail c then
              match rest with
              | [] => [replacement]
              | d :: rest =>
                if isTail d then
                  Char.ofNat (((a.toNat % 8 * 64 + tailBits b) * 64 + tailBits c) * 64 + tailBits d)
                    :: decode rest
                else replacement :: decode (d :: rest)
            else replacement :: decode (c :: rest)
        else replacement :: decode (b :: rest)
    else
      replacement :: decode rest

/-- The text that the bytes encode, with replacements where they encode none. -/
def ofBytes (b : Bytes) : String :=
  String.ofList (decode b)

/-- The text of a field that ends at its first zero byte or fills its bytes. -/
def ofField (b : Bytes) : String :=
  ofBytes b.untilZero

end Mavlink.Text
