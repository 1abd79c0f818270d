import Mavlink.Text.Quoted

/-!
# Strings in JSON texts

A string stands between double quotes. Quotes, backslashes and control characters inside it are
written by escapes; an escape with four hexadecimal digits denotes a unit of UTF-16, so that a
character beyond the first 65536 takes two of them.
-/

namespace Mavlink.JsonString

/-- A part of a written string: a character, or a unit of UTF-16 given by its number. -/
inductive Piece
  | char (c : Char)
  | unit (n : Nat)
  deriving DecidableEq, Repr

/-! ### Reading -/

/-- The value of a hexadecimal digit of either case. -/
def hexDigit? (c : Char) : Option Nat :=
  if '0' ≤ c ∧ c ≤ '9' then some (c.toNat - '0'.toNat)
  else if 'a' ≤ c ∧ c ≤ 'f' then some (c.toNat - 'a'.toNat + 10)
  else if 'A' ≤ c ∧ c ≤ 'F' then some (c.toNat - 'A'.toNat + 10)
  else none

/-- The number written by four hexadecimal digits. -/
def unit? (a b c d : Char) : Option Nat := do
  let a ← hexDigit? a
  let b ← hexDigit? b
  let c ← hexDigit? c
  let d ← hexDigit? d
  return ((a * 16 + b) * 16 + c) * 16 + d

/-- The character that a backslash and a second character denote together. -/
def escaped? : Char → Option Char
  | '"' => some '"'
  | '\\' => some '\\'
  | '/' => some '/'
  | 'b' => some '\x08'
  | 'f' => some '\x0c'
  | 'n' => some '\n'
  | 'r' => some '\r'
  | 't' => some '\t'
  | _ => none

/-- Puts a piece in front of what was read after it. -/
def prepend (piece : Piece) : Option (List Piece × List Char) → Option (List Piece × List Char)
  | none => none
  | some (pieces, rest) => some (piece :: pieces, rest)

/-- The pieces of a string up to its closing quote, and the rest. -/
def read? : List Char → Option (List Piece × List Char)
  | [] => none
  | '"' :: rest => some ([], rest)
  | '\\' :: 'u' :: a :: b :: c :: d :: rest =>
    (unit? a b c d).bind fun n => prepend (.unit n) (read? rest)
  | '\\' :: c :: rest => (escaped? c).bind fun c => prepend (.char c) (read? rest)
  | c :: rest => if c < ' ' then none else prepend (.char c) (read? rest)

/-- Whether a unit is the first half of a character. -/
def isHighSurrogate (n : Nat) : Bool :=
  0xd800 ≤ n && n < 0xdc00

/-- Whether a unit is the second half of a character. -/
def isLowSurrogate (n : Nat) : Bool :=
  0xdc00 ≤ n && n < 0xe000

/-- The characters that the pieces denote, if every half of a character stands beside its other
half. -/
def chars? : List Piece → Option (List Char)
  | [] => some []
  | .char c :: rest => (chars? rest).map (c :: ·)
  | .unit high :: .unit low :: rest =>
    if isHighSurrogate high then
      if isLowSurrogate low then
        (chars? rest).map
          (Char.ofNat (0x10000 + (high - 0xd800) * 0x400 + (low - 0xdc00)) :: ·)
      else none
    else if isLowSurrogate high then none
    else (chars? (.unit low :: rest)).map (Char.ofNat high :: ·)
  | .unit n :: rest =>
    if isHighSurrogate n || isLowSurrogate n then none
    else (chars? rest).map (Char.ofNat n :: ·)

/-- A piece in front leaves the same characters to be read. -/
theorem length_lt_of_prepend {piece : Piece} {o : Option (List Piece × List Char)}
    {pieces : List Piece} {rest : List Char} {n : Nat}
    (ih : ∀ pieces rest, o = some (pieces, rest) → rest.length < n)
    (h : prepend piece o = some (pieces, rest)) : rest.length < n := by
  unfold prepend at h
  split at h
  · contradiction
  · obtain ⟨-, rfl⟩ := Prod.mk.injEq .. ▸ Option.some.injEq .. ▸ h
    exact ih _ _ rfl

/-- Reading a string uses up text. -/
theorem length_lt_of_read? {cs rest : List Char} {pieces : List Piece}
    (h : read? cs = some (pieces, rest)) : rest.length < cs.length := by
  fun_induction read? cs generalizing pieces rest with
  | case1 => contradiction
  | case2 r =>
    obtain ⟨-, rfl⟩ := Prod.mk.injEq .. ▸ Option.some.injEq .. ▸ h
    exact Nat.lt_succ_self _
  | case3 a b c d r ih =>
    obtain ⟨n, -, h⟩ := Option.bind_eq_some_iff.1 h
    have := length_lt_of_prepend (fun _ _ => ih) h
    simp only [List.length_cons]
    omega
  | case4 c r _ ih =>
    obtain ⟨n, -, h⟩ := Option.bind_eq_some_iff.1 h
    have := length_lt_of_prepend (fun _ _ => ih) h
    simp only [List.length_cons]
    omega
  | case5 => contradiction
  | case6 c r _ _ _ _ ih =>
    have := length_lt_of_prepend (fun _ _ => ih) h
    simp only [List.length_cons]
    omega

/-! ### Writing -/

/-- How a character is written inside a string. -/
def charText (c : Char) : List Char :=
  if c = '"' || c = '\\' then ['\\', c]
  else if c = '\x08' then ['\\', 'b']
  else if c = '\t' then ['\\', 't']
  else if c = '\n' then ['\\', 'n']
  else if c = '\x0c' then ['\\', 'f']
  else if c = '\r' then ['\\', 'r']
  else if c < ' ' then '\\' :: 'u' :: Text.hexPadded 4 c.toNat
  else [c]

/-- A string with its quotes. -/
def write (s : String) : List Char :=
  '"' :: s.toList.flatMap charText ++ ['"']

end Mavlink.JsonString
