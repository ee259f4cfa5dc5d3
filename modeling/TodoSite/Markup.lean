/-
  The markup of a list.

  The server renders the list into a root element whose attribute carries the path of the list;
  the browser finds that element by its identifier.  Names, keys, titles and paths are a person's
  text: `escape` writes the five characters that mean something in markup as entities, so such a
  text can neither open an element nor end an attribute.
-/
import TodoSite.View

namespace TodoSite.Markup

/-- The identifier of the root element. -/
def rootId : String := "TodoAppRoot"

/-- The class of the element that holds the title. -/
def titleClass : String := "App-title"

/-- The identifier of the element that holds the state of the page. -/
def stateId : String := "todo-state"

/-- One character of text in markup. -/
def escapeChar (c : Char) : List Char :=
  if c = '&' then "&amp;".toList
  else if c = '<' then "&lt;".toList
  else if c = '>' then "&gt;".toList
  else if c = '"' then "&quot;".toList
  else if c = '\'' then "&#39;".toList
  else [c]

/-- `text` as the content of an element or of a quoted attribute. -/
def escape (text : String) : String :=
  String.ofList (text.toList.flatMap escapeChar)

/-- The list element of one row. -/
def rowHtml (row : Row) : String :=
  "<li style=\"text-decoration:" ++ (if row.struck then "line-through" else "none") ++ "\">"
    ++ escape row.name ++ " <a href=\"" ++ escape row.target ++ "\">" ++ row.label ++ "</a></li>"

/-- The rows in one list element, and the input row. -/
def listHtml (view : ListView) : String :=
  "<div><ul>" ++ String.join (view.rows.map rowHtml)
    ++ "</ul><div><form><input type=\"text\" name=\"name\"/><button>" ++ view.submitLabel
    ++ "</button></form></div></div>"

/-- The root element of the list at `resource`. -/
def appHtml (resource title : String) (view : ListView) : String :=
  "<div id=\"" ++ rootId ++ "\" data-resource-path=\"" ++ escape resource
    ++ "\"><div><header class=\"App-header\"><h1 class=\"" ++ titleClass ++ "\">" ++ escape title
    ++ "</h1></header><p class=\"App-intro\">" ++ introText ++ "</p>" ++ listHtml view
    ++ "</div></div>"

end TodoSite.Markup
