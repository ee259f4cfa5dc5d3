/-
  The form in which an item is written.

  An item is stored as a node with three properties: the type of the node, the name and the flag.
  The form carries a fourth field, which says that the flag is to be stored as a truth value and not
  as a text.
-/
import TodoSite.Form
import TodoSite.Model

namespace TodoSite

/-- The type of a node without structure. -/
def unstructured : String := "nt:unstructured"

/-- The property that holds the type of a node. -/
def primaryType : String := "jcr:primaryType"

/-- The fields of the form for an item. -/
structure ItemForm where
  /-- The type of the node. -/
  nodeType : String
  /-- The name of the item. -/
  name : String
  /-- Whether the item is done. -/
  done : Bool
  /-- The type in which `done` is to be stored. -/
  doneType : String
  deriving DecidableEq, Repr

/-- A truth value as a text. -/
def boolText (b : Bool) : String := if b then "true" else "false"

/-- The form for `item`. -/
def Item.form (item : Item) : ItemForm :=
  { nodeType := unstructured, name := item.name, done := item.done, doneType := "boolean" }

namespace ItemForm

/-- The fields in their order. -/
def pairs (form : ItemForm) : List (String × String) :=
  [(primaryType, form.nodeType), ("name", form.name), ("done", boolText form.done),
    ("done@TypeHint", form.doneType)]

/-- Why pairs are not the form of an item. -/
inductive Fault where
  /-- A field has come before. -/
  | duplicate (field : String)
  /-- A field is not there. -/
  | missing (field : String)
  /-- The flag is neither of the two words. -/
  | notBoolean
  deriving DecidableEq, Repr

/-- The wording of a fault. -/
def Fault.message : Fault → String
  | .duplicate field => "duplicate field `" ++ field ++ "`"
  | .missing field => "missing field `" ++ field ++ "`"
  | .notBoolean => "provided string was not `true` or `false`"

/-- The fields that have been read. -/
structure Fields where
  /-- The field of `ItemForm.nodeType`. -/
  nodeType : Option String := none
  /-- The field of `ItemForm.name`. -/
  name : Option String := none
  /-- The field of `ItemForm.done`. -/
  done : Option Bool := none
  /-- The field of `ItemForm.doneType`. -/
  doneType : Option String := none

/-- The flag that a text spells. -/
def readDone (value : String) : Except Fault Bool :=
  if value = "true" then .ok true
  else if value = "false" then .ok false
  else .error .notBoolean

/-- `fields` with one more pair; a name that is none of the four is passed over. -/
def Fields.put (fields : Fields) (pair : String × String) : Except Fault Fields :=
  let name := pair.1
  let once (seen : Bool) (put : Except Fault Fields) : Except Fault Fields :=
    if seen then .error (.duplicate name) else put
  if name = primaryType then
    once fields.nodeType.isSome (.ok { fields with nodeType := some pair.2 })
  else if name = "name" then once fields.name.isSome (.ok { fields with name := some pair.2 })
  else if name = "done" then
    once fields.done.isSome ((readDone pair.2).map fun b => { fields with done := some b })
  else if name = "done@TypeHint" then
    once fields.doneType.isSome (.ok { fields with doneType := some pair.2 })
  else .ok fields

/-- A field that must be there. -/
def require {α : Type} (name : String) : Option α → Except Fault α
  | some a => .ok a
  | none => .error (.missing name)

/-- The form that `pairs` hold: they are read in order, and then the first field that is absent is
    missed. -/
def ofPairs (pairs : List (String × String)) : Except Fault ItemForm := do
  let fields ← pairs.foldlM Fields.put {}
  let nodeType ← require primaryType fields.nodeType
  let name ← require "name" fields.name
  let done ← require "done" fields.done
  let doneType ← require "done@TypeHint" fields.doneType
  return { nodeType, name, done, doneType }

end ItemForm

/-- The body of the request that writes `item`. -/
def Item.formBody (item : Item) : String :=
  Form.encode item.form.pairs

end TodoSite
