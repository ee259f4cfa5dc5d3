/-
  What can be wrong with a text that should be JSON, and where.

  A `Reason` is a cause; its wording is in `Reason.message` alone.  A `Fault` is a reason together
  with its place.  Readers work on the unread rest of the text, so a place is kept as the number of
  bytes that lie behind it; line and column follow from the whole text at the end.

  Two places are told apart.  A fault lies *after* the last byte that has been read, or *upon* the
  next byte, one further (at the end of the text the two fall together).
-/
import TodoSite.Decimal.Layout
import TodoSite.Text.Quoted

namespace TodoSite.Json

/-- A value that is not of the type asked for. -/
inductive Found where
  /-- The value null. -/
  | null
  /-- A truth value. -/
  | bool (b : Bool)
  /-- A whole number of at most 64 bits. -/
  | integer (n : Int)
  /-- Any other number, as the bits of the double nearest to it. -/
  | fraction (bits : UInt64)
  /-- A string. -/
  | text (s : String)
  /-- The beginning of an array. -/
  | sequence
  /-- The beginning of an object. -/
  | map
  deriving DecidableEq, Repr

/-- What is asked for. -/
inductive Expected where
  /-- A string. -/
  | text
  /-- A truth value. -/
  | boolean
  /-- A list. -/
  | sequence
  /-- A model. -/
  | model
  /-- An item. -/
  | item
  deriving DecidableEq, Repr

/-- Why a text cannot be read. -/
inductive Reason where
  /-- The text ends where a value is due, or inside a word or a number. -/
  | endOfValue
  /-- The text ends inside an array. -/
  | endOfList
  /-- The text ends inside an object. -/
  | endOfObject
  /-- The text ends inside a string. -/
  | endOfText
  /-- The name of a member is followed by something else than a colon. -/
  | expectedColon
  /-- An element is followed by something else than a comma or a bracket. -/
  | expectedListEnd
  /-- A member is followed by something else than a comma or a brace. -/
  | expectedObjectEnd
  /-- A word begins like null, true or false and goes on otherwise. -/
  | expectedWord
  /-- No value begins like this. -/
  | expectedValue
  /-- A control character stands inside a string. -/
  | controlCharacter
  /-- An unknown escape, or one without its four hexadecimal digits. -/
  | invalidEscape
  /-- An ill-formed number. -/
  | invalidNumber
  /-- A number beyond the greatest double. -/
  | numberOutOfRange
  /-- Half of a pair of surrogates in the place of the other half. -/
  | loneSurrogate
  /-- The first half of a pair of surrogates with no escape after it. -/
  | unfinishedSurrogate
  /-- Something else than a string where the name of a member is due. -/
  | nameNotText
  /-- A comma before a closing bracket. -/
  | trailingComma
  /-- Something after the end. -/
  | trailingCharacters
  /-- A value of another type. -/
  | wrongType (found : Found) (expected : Expected)
  /-- A member that has come before. -/
  | duplicateField (name : String)
  /-- A member that must be there and is not. -/
  | missingField (name : String)
  /-- An item written as a list of fewer elements than it must have. -/
  | tooShort (length : Nat)
  deriving DecidableEq, Repr

/-- How a message speaks of a value. -/
def Found.message : Found → String
  | .null => "null"
  | .bool b => "boolean `" ++ (if b then "true" else "false") ++ "`"
  | .integer n => "integer `" ++ Int.repr n ++ "`"
  | .fraction bits => "floating point `" ++ Decimal.fractionText bits ++ "`"
  | .text s => "string " ++ Text.quote s
  | .sequence => "sequence"
  | .map => "map"

/-- How a message speaks of what is asked for. -/
def Expected.message : Expected → String
  | .text => "a string"
  | .boolean => "a boolean"
  | .sequence => "a sequence"
  | .model => "struct TodoListModel"
  | .item => "struct TodoItem"

/-- The wording of a reason. -/
def Reason.message : Reason → String
  | .endOfValue => "EOF while parsing a value"
  | .endOfList => "EOF while parsing a list"
  | .endOfObject => "EOF while parsing an object"
  | .endOfText => "EOF while parsing a string"
  | .expectedColon => "expected `:`"
  | .expectedListEnd => "expected `,` or `]`"
  | .expectedObjectEnd => "expected `,` or `\x7d`"
  | .expectedWord => "expected ident"
  | .expectedValue => "expected value"
  | .controlCharacter => "control character (\\u0000-\\u001F) found while parsing a string"
  | .invalidEscape => "invalid escape"
  | .invalidNumber => "invalid number"
  | .numberOutOfRange => "number out of range"
  | .loneSurrogate => "lone leading surrogate in hex escape"
  | .unfinishedSurrogate => "unexpected end of hex escape"
  | .nameNotText => "key must be a string"
  | .trailingComma => "trailing comma"
  | .trailingCharacters => "trailing characters"
  | .wrongType found expected => "invalid type: " ++ found.message ++ ", expected " ++ expected.message
  | .duplicateField name => "duplicate field `" ++ name ++ "`"
  | .missingField name => "missing field `" ++ name ++ "`"
  | .tooShort length =>
    "invalid length " ++ Nat.repr length ++ ", expected struct TodoItem with 4 elements"

/-! ## Places -/

/-- The number of bytes of a text. -/
def byteCount : List Char → Nat
  | [] => 0
  | c :: cs => c.utf8Size + byteCount cs

/-- A reason and the number of bytes that lie behind the place where it was found. -/
structure Fault where
  /-- Why the text cannot be read. -/
  reason : Reason
  /-- The number of bytes behind the place. -/
  behind : Nat
  deriving DecidableEq, Repr

namespace Fault

/-- A fault after the last byte read, where `rest` is unread. -/
def after (reason : Reason) (rest : List Char) : Fault :=
  ⟨reason, byteCount rest⟩

/-- A fault upon the next byte, where `rest` is unread. -/
def upon (reason : Reason) (rest : List Char) : Fault :=
  ⟨reason, byteCount rest - 1⟩

/-- The line and the column after the first `count` bytes of `cs`, counted on from `line` and
    `column`.  Lines end with a line feed; a column is a number of bytes. -/
def lineColumn : (cs : List Char) → (count line column : Nat) → Nat × Nat
  | [], _, line, column => (line, column)
  | c :: cs, count, line, column =>
    if count = 0 then (line, column)
    else if c = '\n' then lineColumn cs (count - 1) (line + 1) 0
    else if count < c.utf8Size then (line, column + count)
    else lineColumn cs (count - c.utf8Size) line (column + c.utf8Size)

/-- The wording of a fault found in `text`. -/
def message (fault : Fault) (text : String) : String :=
  let place := lineColumn text.toList (byteCount text.toList - fault.behind) 1 0
  fault.reason.message ++ " at line " ++ Nat.repr place.1 ++ " column " ++ Nat.repr place.2

end Fault

end TodoSite.Json
