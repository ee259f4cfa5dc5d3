/-
  Files that are served as they are.

  A folder holds files by name.  The content type of a file follows from what comes after the last
  dot of its name.  The address of a bundle carries the path of a list before the name of the file,
  so a file is looked for under the whole path first, and then under its last part.
-/
import TodoSite.Http.MediaType
import TodoSite.Http.Message
import TodoSite.Text.Pieces

namespace TodoSite

open Text (Bytes)

/-- Files by name. -/
abbrev Folder := List (String × Bytes)

namespace Folder

/-- The content of the file called `name`. -/
def get? (folder : Folder) (name : String) : Option Bytes :=
  (folder.find? fun file => file.1 = name).map (·.2)

end Folder

namespace Asset

/-! ## Content types -/

/-- The parts of a path that name something: empty ones and single dots do not, unless the path
    begins with the dot. -/
def components (path : String) : List String :=
  match (Text.pieces '/' path.toList).map String.ofList with
  | [] => []
  | first :: parts => first :: parts.filter fun part => part ≠ "" && part ≠ "."

/-- What follows the last dot of the last part of a path, unless that dot comes first in it. -/
def extension? (path : String) : Option String :=
  match (components path).getLast? with
  | none => none
  | some name =>
    if name = ".." then none
    else
      match (Text.pieces '.' name.toList).reverse with
      | ending :: before :: more =>
        if before.isEmpty && more.isEmpty then none else some (String.ofList ending)
      | _ => none

/-- The content type of the file called `name`. -/
def contentType (name : String) : String :=
  MediaType.ofEnding (extension? name)

/-! ## Serving -/

/-- The response that carries the file called `name`. -/
def response (folder : Folder) (name : String) : Response :=
  match folder.get? name with
  | some content => { contentType := some (contentType name), body := content }
  | none => .plain 404 "404 Not Found"

/-- The part of a path after its last slash. -/
def lastPart (path : List Char) : List Char :=
  (path.reverse.takeWhile (· ≠ '/')).reverse

/-- The response to a request for a file at `path`. -/
def serve (folder : Folder) (path : String) : Response :=
  let name := path.toList.dropWhile (· == '/')
  if (folder.get? (String.ofList name)).isSome then response folder (String.ofList name)
  else response folder (String.ofList (lastPart name))

end Asset

/-! ## The files of the server -/

/-- `ls`, each ended by a line feed. -/
def lines (ls : List String) : String :=
  String.join (ls.map (· ++ "\n"))

/-- The document that pages are made from. -/
def pageTemplate : String :=
  lines
    ["<!DOCTYPE html>",
      "<html>",
      "<head>",
      "    <meta charset=\"utf-8\"/>",
      "    <meta name=\"viewport\" content=\"width=device-width, initial-scale=1.0\"/>",
      "    <title><!--TODO_TITLE--></title>",
      "    <style>",
      "        html, body \x7b margin: 0; padding: 0; font-family: sans-serif; \x7d",
      "        #TodoAppRoot \x7b max-width: 40em; margin: 0 auto; padding: 1em; \x7d",
      "        #todo_canvas \x7b display: none; width: 100%; height: 100vh; \x7d",
      "        #TodoAppRoot.hydrated > div \x7b display: none; \x7d",
      "        #TodoAppRoot.hydrated #todo_canvas \x7b display: block; \x7d",
      "    </style>",
      "</head>",
      "<body>",
      "<!--TODO_APP-->",
      "<!--TODO_STATE-->",
      "<!--TODO_BUNDLE-->",
      "</body>",
      "</html>"]

/-- The script that loads the page's program. -/
def bundleScript : String :=
  lines
    ["// Loads the wasm-bindgen output placed next to this file by the frontend build.",
      "import init from \"/clientlib/todo_frontend.js\";",
      "",
      "init().catch((error) => console.error(\"todo frontend failed to start\", error));"]

/-- The files that the server carries. -/
def serverFolder : Folder :=
  [("index.html", Text.encode pageTemplate), ("jsbundle.js", Text.encode bundleScript)]

end TodoSite
