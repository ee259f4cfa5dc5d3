/-
  JSON values and their compact text.

  `Json.render` writes a value without any space.  Inside a string the quotation mark and the
  backslash are written with a backslash, the control characters below U+0020 by their letters or
  by number, and everything else as it is.
-/
import TodoSite.NameMap

namespace TodoSite

/-- A JSON value without fractions.  An object keeps its members in the order given. -/
inductive Json where
  /-- The value null. -/
  | null
  /-- A truth value. -/
  | bool (b : Bool)
  /-- A whole number. -/
  | int (n : Int)
  /-- A string. -/
  | text (s : String)
  /-- An array. -/
  | array (elements : List Json)
  /-- An object. -/
  | object (members : List (String × Json))

namespace Json

/-! ## Strings -/

/-- One character inside a string. -/
def quoteChar (c : Char) : List Char :=
  if c = '"' then ['\\', '"']
  else if c = '\\' then ['\\', '\\']
  else if c = '\x08' then ['\\', 'b']
  else if c = '\x0c' then ['\\', 'f']
  else if c = '\n' then ['\\', 'n']
  else if c = '\r' then ['\\', 'r']
  else if c = '\t' then ['\\', 't']
  else if c.toNat < 0x20 then
    ['\\', 'u', '0', '0', Nat.digitChar (c.toNat / 16), Nat.digitChar (c.toNat % 16)]
  else [c]

/-- `text` as a string. -/
def quote (text : String) : String :=
  String.ofList ('"' :: text.toList.flatMap quoteChar ++ ['"'])

/-! ## Values -/

/-- `parts` with commas between them. -/
def commaSeparated : List String → String
  | [] => ""
  | [part] => part
  | part :: parts => part ++ "," ++ commaSeparated parts

mutual

/-- The compact text of a value. -/
def render : Json → String
  | null => "null"
  | bool b => if b then "true" else "false"
  | int n => Int.repr n
  | text s => quote s
  | array elements => "[" ++ commaSeparated (renderElements elements) ++ "]"
  | object members => "\x7b" ++ commaSeparated (renderMembers members) ++ "\x7d"

/-- The texts of the elements of an array. -/
def renderElements : List Json → List String
  | [] => []
  | v :: vs => render v :: renderElements vs

/-- The texts of the members of an object. -/
def renderMembers : List (String × Json) → List String
  | [] => []
  | (name, v) :: ms => (quote name ++ ":" ++ render v) :: renderMembers ms

end

/-- The object with these members in the order of their names; of two members of one name the later
    one counts. -/
def ofMembers (members : List (String × Json)) : Json :=
  object (NameMap.insertAll [] members)

end Json

end TodoSite
