/-
  A model as JSON: the title before the items, and of an item its name, flag and key, and its path
  where it has one.
-/
import TodoSite.Json.Value
import TodoSite.Model

namespace TodoSite

/-- An item as JSON. -/
def Item.toJson (item : Item) : Json :=
  let path := match item.path with
    | none => []
    | some p => [("path", Json.text p)]
  .object ([("name", .text item.name), ("done", .bool item.done), ("itemKey", .text item.key)] ++ path)

/-- A model as JSON. -/
def Model.toJson (model : Model) : Json :=
  .object [("title", .text model.title), ("items", .array (model.items.map Item.toJson))]

/-- The text in which a model is sent. -/
def Model.render (model : Model) : String :=
  model.toJson.render

end TodoSite
