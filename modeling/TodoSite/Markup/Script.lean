/-
  The state of a page, embedded in it.

  The page carries its model as JSON inside a script element.  Such an element ends at the first
  `</` that begins its end tag, whatever stands around it; so in the embedded text every `</` is
  written `<\/`, which inside a JSON string means the same.  Outside its strings JSON has no `<`.
-/
import TodoSite.Markup
import TodoSite.Model.Json
import TodoSite.Text.Pieces

namespace TodoSite.Markup

/-- A JSON value as the content of a script element. -/
def scriptText (json : Json) : String :=
  Text.replaceAll "</" "<\\/" json.render

/-- How the element with the state begins. -/
def stateOpening : String :=
  "<script id=\"" ++ stateId ++ "\" type=\"application/json\">"

/-- How a script element ends. -/
def scriptClosing : String := "</script>"

/-- The element that carries `model`. -/
def stateScript (model : Model) : String :=
  stateOpening ++ scriptText model.toJson ++ scriptClosing

end TodoSite.Markup
