import Mavlink.Json.Number
import Mavlink.Json.String

/-!
# Tokens of JSON texts

A JSON text is a sequence of punctuation marks and of values without parts. Between tokens there
may be spaces, tabs and line ends.
-/

namespace Mavlink

/-- A token: a mark, or a value without parts. -/
inductive JsonToken
  | openArray
  | closeArray
  | openObject
  | closeObject
  | comma
  | colon
  | value (value : Json)
  deriving Repr

namespace JsonToken

/-- Whether the character may stand between tokens. -/
def isSpace (c : Char) : Bool :=
  c = ' ' || c = '\t' || c = '\n' || c = '\r'

/-- The string after its opening quote, and the rest. -/
def string? (cs : List Char) : Option (JsonToken × List Char) :=
  (JsonString.read? cs).map fun (pieces, rest) =>
    (.value (.text ((JsonString.chars? pieces).map String.ofList)), rest)

/-- The number at the start of a text, and the rest. -/
def number? (cs : List Char) : Option (JsonToken × List Char) :=
  (NumberLiteral.ofText? cs).map fun (n, rest) => (.value (.number n.toNumber), rest)

/-- The value of a word of letters, and the rest. -/
def word? : List Char → Option (JsonToken × List Char)
  | 'n' :: 'u' :: 'l' :: 'l' :: rest => some (.value .null, rest)
  | 't' :: 'r' :: 'u' :: 'e' :: rest => some (.value (.bool true), rest)
  | 'f' :: 'a' :: 'l' :: 's' :: 'e' :: rest => some (.value (.bool false), rest)
  | _ => none

/-- The mark that a character is. -/
def mark? : Char → Option JsonToken
  | '[' => some openArray
  | ']' => some closeArray
  | '\x7b' => some openObject
  | '\x7d' => some closeObject
  | ',' => some comma
  | ':' => some colon
  | _ => none

/-- The token that begins with the given character, and the rest. -/
def ofText? (c : Char) (cs : List Char) : Option (JsonToken × List Char) :=
  match mark? c with
  | some t => some (t, cs)
  | none =>
    if c = '"' then string? cs
    else if c = '-' || c.isDigit then number? (c :: cs)
    else word? (c :: cs)

/-- A word that was read is used up. -/
theorem length_lt_of_word? {cs rest : List Char} {t : JsonToken}
    (h : word? cs = some (t, rest)) : rest.length < cs.length := by
  unfold word? at h
  split at h
  case h_4 => contradiction
  all_goals
    obtain ⟨-, rfl⟩ := Prod.mk.injEq .. ▸ Option.some.injEq .. ▸ h
    simp only [List.length_cons]
    omega

/-- Reading a token uses up text. -/
theorem length_le_of_ofText? {c : Char} {cs rest : List Char} {t : JsonToken}
    (h : ofText? c cs = some (t, rest)) : rest.length ≤ cs.length := by
  unfold ofText? at h
  split at h
  · obtain ⟨-, rfl⟩ := Prod.mk.injEq .. ▸ Option.some.injEq .. ▸ h
    exact Nat.le_refl _
  · split at h
    · obtain ⟨⟨pieces, r⟩, hr, h⟩ := Option.map_eq_some_iff.1 h
      obtain ⟨-, rfl⟩ := Prod.mk.injEq .. ▸ h
      exact Nat.le_of_lt (JsonString.length_lt_of_read? hr)
    · split at h
      · obtain ⟨⟨n, r⟩, hr, h⟩ := Option.map_eq_some_iff.1 h
        obtain ⟨-, rfl⟩ := Prod.mk.injEq .. ▸ h
        exact Nat.le_of_lt_succ (NumberLiteral.length_lt_of_ofText? hr)
      · exact Nat.le_of_lt_succ (length_lt_of_word? h)

/-- The tokens of a text. -/
def all? : List Char → Option (List JsonToken)
  | [] => some []
  | c :: cs =>
    if isSpace c then all? cs
    else
      match _h : ofText? c cs with
      | none => none
      | some (t, rest) => (all? rest).map (t :: ·)
termination_by cs => cs.length
decreasing_by
  · exact Nat.lt_succ_self _
  · exact Nat.lt_succ_of_le (length_le_of_ofText? ‹_›)

end JsonToken

end Mavlink
