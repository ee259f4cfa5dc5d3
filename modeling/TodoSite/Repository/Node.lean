/-
  Nodes: properties with values of two types, and the names of children in the order in which they
  were made.
-/
import TodoSite.ItemForm
import TodoSite.NameMap
import TodoSite.Text.Blank

namespace TodoSite

/-! ## Values -/

/-- A stored value. -/
inductive Value where
  /-- A text. -/
  | text (s : String)
  /-- A truth value. -/
  | bool (b : Bool)
  deriving DecidableEq, Repr

namespace Value

/-- `text` with its ASCII capitals as small letters. -/
def asciiLower (text : String) : String :=
  String.ofList (text.toList.map Char.toLower)

/-- The truth value that a text spells, in letters of any case and with white space around it. -/
def spelledBool? (raw : String) : Option Bool :=
  let word := asciiLower (Text.trim raw)
  if word = "true" then some true else if word = "false" then some false else none

/-- A value as a text. -/
def text? : Value → Option String
  | text s => some s
  | bool _ => none

/-- A value as a truth value: one itself, or a text that spells one. -/
def bool? : Value → Option Bool
  | text s => spelledBool? s
  | bool b => some b

end Value

/-! ## Nodes -/

/-- A node of the tree. -/
structure Node where
  /-- The properties by name. -/
  properties : NameMap Value := []
  /-- The names of the children in the order in which they were made. -/
  children : List String := []
  deriving DecidableEq, Repr, Inhabited

namespace Node

/-- A new node. -/
def unstructured : Node :=
  { properties := [(primaryType, .text TodoSite.unstructured)] }

/-- A property that is a text. -/
def text? (node : Node) (name : String) : Option String :=
  (node.properties.get? name).bind Value.text?

/-- A property that is, or spells, a truth value. -/
def bool? (node : Node) (name : String) : Option Bool :=
  (node.properties.get? name).bind Value.bool?

end Node

end TodoSite
