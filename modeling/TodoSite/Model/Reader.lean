/-
  Reading a model from JSON.

  The title and the items of a model may both be left out; an item must have a name and a key.
  Members with other names are passed over.  Either record may also be written as a list.

  `Model.read` reads a whole text; its fault says in words what is wrong and where.
-/
import TodoSite.Json.Record
import TodoSite.Model

namespace TodoSite

open Json Json.Reader

/-! ## Items -/

/-- The fields of an item that have been read. -/
structure ItemFields where
  /-- The member `name`. -/
  name : Option String := none
  /-- The member `done`. -/
  done : Option Bool := none
  /-- The member `itemKey`. -/
  key : Option String := none
  /-- The member `path`, which may be null. -/
  path : Option (Option String) := none

namespace ItemFields

/-- The members of an item. -/
def record : Record ItemFields where
  field? name :=
    if name = "name" then some (field name (·.name) (fun s a => { s with name := some a }) text)
    else if name = "done" then some (field name (·.done) (fun s a => { s with done := some a }) boolean)
    else if name = "itemKey" then some (field name (·.key) (fun s a => { s with key := some a }) text)
    else if name = "path" then some (field name (·.path) (fun s a => { s with path := some a }) text?)
    else none

/-- The item with these fields; the name is asked for before the key. -/
def item (fields : ItemFields) : Except Reason Item :=
  match fields.name, fields.key with
  | none, _ => .error (.missingField "name")
  | some _, none => .error (.missingField "itemKey")
  | some name, some key => .ok { name, done := fields.done.getD false, key, path := fields.path.join }

end ItemFields

namespace Item

/-- An item written as a list, after its bracket. -/
def readList : Reader Item := fun rest => do
  let (name, rest) ← element? text true rest
  let some name := name | throw (.after (.tooShort 0) (afterList rest))
  let (done, rest) ← element? boolean false rest
  let (key, rest) ← element? text false rest
  let some key := key | throw (.after (.tooShort 2) (afterList rest))
  let (path, rest) ← element? text? false rest
  return ({ name, done := done.getD false, key, path := path.join }, ← closeList rest)

/-- An item written as an object, after its brace. -/
def readObject : Reader Item := fun rest => do
  let (fields, rest) ← members ItemFields.record {} rest
  match fields.item with
  | .ok item => return (item, rest)
  | .error reason => throw (.after reason rest)

/-- An item. -/
def read : Reader Item := fun rest =>
  match skipBlank rest with
  | [] => .error (.after .endOfValue [])
  | '[' :: rest => readList rest
  | '\x7b' :: rest => readObject rest
  | rest => .error (refuse .item rest)

end Item

/-! ## Models -/

/-- The fields of a model that have been read. -/
structure ModelFields where
  /-- The member `title`. -/
  title : Option String := none
  /-- The member `items`. -/
  items : Option (List Item) := none

namespace ModelFields

/-- The members of a model. -/
def record : Record ModelFields where
  field? name :=
    if name = "title" then some (field name (·.title) (fun s a => { s with title := some a }) text)
    else if name = "items" then
      some (field name (·.items) (fun s a => { s with items := some a }) (list Item.read))
    else none

/-- The model with these fields. -/
def model (fields : ModelFields) : Model :=
  { title := fields.title.getD defaultTitle, items := fields.items.getD [] }

end ModelFields

namespace Model

/-- A model written as a list, after its bracket. -/
def readList : Reader Model := fun rest => do
  let (title, rest) ← element? text true rest
  let (items, rest) ← element? (list Item.read) false rest
  return (ModelFields.model { title, items }, ← closeList rest)

/-- A model written as an object, after its brace. -/
def readObject : Reader Model := fun rest => do
  let (fields, rest) ← members ModelFields.record {} rest
  return (fields.model, rest)

/-- The model at the beginning of a text. -/
def readValue : Reader Model := fun rest =>
  match skipBlank rest with
  | [] => .error (.after .endOfValue [])
  | '[' :: rest => readList rest
  | '\x7b' :: rest => readObject rest
  | rest => .error (refuse .model rest)

/-- The model that a text holds, with nothing but white space around it. -/
def read (source : String) : Except Fault Model := do
  let (model, rest) ← readValue source.toList
  match skipBlank rest with
  | [] => return model
  | rest => throw (.upon .trailingCharacters rest)

end Model

end TodoSite
