/-
  Pages.

  A page is a template with four slots.  Each slot is a comment in the template; it gives way to the
  title, the markup of the list, the script with the state, and the script that loads the bundle.

  The slots are filled one after another in this order, each wherever its comment then stands.  So a
  comment that comes in with an earlier slot is filled as well; the title and the markup are escaped
  and cannot bring one in, but the state is not.
-/
import TodoSite.Address
import TodoSite.Asset
import TodoSite.Markup.Script

namespace TodoSite

/-- The page of a list. -/
structure Page where
  /-- The path of the list. -/
  resource : String
  /-- The list. -/
  model : Model
  deriving DecidableEq, Repr

/-- A place in the template that is filled in. -/
inductive Slot where
  /-- The title of the document. -/
  | title
  /-- The markup of the list. -/
  | app
  /-- The script that carries the model. -/
  | state
  /-- The script that loads the bundle. -/
  | bundle
  deriving DecidableEq, Repr

namespace Slot

/-- The comment that marks the slot. -/
def marker : Slot → String
  | title => "<!--TODO_TITLE-->"
  | app => "<!--TODO_APP-->"
  | state => "<!--TODO_STATE-->"
  | bundle => "<!--TODO_BUNDLE-->"

/-- The slots in the order in which they are filled. -/
def all : List Slot := [title, app, state, bundle]

end Slot

/-- Why there is no page. -/
inductive PageError where
  /-- The folder has no template. -/
  | missingTemplate
  deriving DecidableEq, Repr

/-- The wording of a failure. -/
def PageError.message : PageError → String
  | .missingTemplate => "Page template not found. Did you build the frontend?"

namespace Page

/-- What a slot is filled with. -/
def content (page : Page) : Slot → String
  | .title => Markup.escape page.model.title
  | .app => Markup.appHtml page.resource page.model.title (TodoList.ofItems page.model.items).view
  | .state => Markup.stateScript page.model
  | .bundle =>
    "<script type=\"module\" src=\"" ++ Markup.escape (Address.bundle page.resource) ++ "\"></script>"

/-- The template with its slots filled. -/
def fill (page : Page) (template : String) : String :=
  Slot.all.foldl (fun text slot => Text.replaceAll slot.marker (page.content slot) text) template

/-- The document, made from the template in `folder`. -/
def render (folder : Folder) (page : Page) : Except PageError String :=
  match folder.get? "index.html" with
  | none => .error .missingTemplate
  | some template => .ok (page.fill (Text.decodeLossy template))

/-- The response that carries the document. -/
def response (folder : Folder) (page : Page) : Response :=
  match page.render folder with
  | .ok document => .html document
  | .error e => .plain 500 e.message

end Page

end TodoSite
