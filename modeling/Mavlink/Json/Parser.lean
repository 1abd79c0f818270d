import Mavlink.Json.Token

/-!
# Reading JSON texts

A text is read token by token. What has been read so far is a stack of arrays and objects that are
still open, and a stage that says what may come next.
-/

namespace Mavlink

namespace JsonParser

/-- An array or object in which a value stands that is being read. What has been read of it is
listed latest first; an object also has the key of the value. -/
inductive Enclosing
  | array (items : List Json)
  | object (members : List (Option String × Json)) (key : Option String)

/-- What may come next. -/
inductive Stage
  /-- A value. -/
  | value
  /-- The first item of an array, or its end. -/
  | firstItem
  /-- A key of an object with the given members or, if `mayEnd`, its end. -/
  | key (members : List (Option String × Json)) (mayEnd : Bool)
  /-- The colon after a key. -/
  | colon (members : List (Option String × Json)) (key : Option String)
  /-- Whatever may follow a value that has just been read. -/
  | complete (value : Json)

/-- What has been read so far, with the innermost array or object first. -/
structure Progress where
  stack : List Enclosing
  stage : Stage

/-- Nothing has been read. -/
def start : Progress := ⟨[], .value⟩

/-- Reads the first token of a value. -/
def beginValue (stack : List Enclosing) : JsonToken → Option Progress
  | .value v => some ⟨stack, .complete v⟩
  | .openArray => some ⟨stack, .firstItem⟩
  | .openObject => some ⟨stack, .key [] true⟩
  | _ => none

/-- Reads the token after a value. -/
def afterValue (v : Json) : List Enclosing → JsonToken → Option Progress
  | .array items :: outer, .comma => some ⟨.array (v :: items) :: outer, .value⟩
  | .array items :: outer, .closeArray =>
    some ⟨outer, .complete (.array (v :: items).reverse)⟩
  | .object members key :: outer, .comma => some ⟨outer, .key ((key, v) :: members) false⟩
  | .object members key :: outer, .closeObject =>
    some ⟨outer, .complete (.object ((key, v) :: members).reverse)⟩
  | _, _ => none

/-- Reads a token. -/
def step (p : Progress) (t : JsonToken) : Option Progress :=
  match p.stage, t with
  | .value, t => beginValue p.stack t
  | .firstItem, .closeArray => some ⟨p.stack, .complete (.array [])⟩
  | .firstItem, t => beginValue (.array [] :: p.stack) t
  | .key _ true, .closeObject => some ⟨p.stack, .complete (.object [])⟩
  | .key members _, .value (.text key) => some ⟨p.stack, .colon members key⟩
  | .colon members key, .colon => some ⟨.object members key :: p.stack, .value⟩
  | .complete v, t => afterValue v p.stack t
  | _, _ => none

/-- The value that has been read, if it is complete. -/
def result? : Progress → Option Json
  | ⟨[], .complete v⟩ => some v
  | _ => none

end JsonParser

/-- The value that a JSON text denotes. -/
def Json.parse? (s : String) : Option Json := do
  let tokens ← JsonToken.all? s.toList
  let progress ← tokens.foldlM JsonParser.step JsonParser.start
  JsonParser.result? progress

end Mavlink
