/-
  The document in which the page's program starts.

  The program needs a window with a document and the root element in it.  It takes its state from
  the model that the page carries, when this can be read, and from the title otherwise.  Then it puts
  a canvas into the root and starts running on it; only when it runs is the root marked, so that the
  markup from the server stays visible until then.

  A document may refuse some of the calls that are made on it.
-/
import TodoSite.AppState
import TodoSite.Client

namespace TodoSite.Browser

/-- A call that a document may refuse. -/
inductive DomCall where
  /-- Looking for an element by its class. -/
  | querySelector
  /-- Making an element. -/
  | createElement
  /-- Putting an element into another one. -/
  | appendChild
  /-- Showing an alert. -/
  | alert
  /-- Starting to run on the canvas. -/
  | runner
  deriving DecidableEq, Repr

/-- What the program finds in the browser. -/
structure Document where
  /-- Whether there is a window. -/
  hasWindow : Bool := true
  /-- Whether the window has a document. -/
  hasDocument : Bool := true
  /-- The root element, if there is one, with its attribute for the path. -/
  root : Option (Option String) := none
  /-- The text of the element that carries the state. -/
  state : Option String := none
  /-- The text of the first element of the title's class. -/
  title : Option String := none
  /-- The calls that are refused. -/
  refused : List DomCall := []
  deriving DecidableEq, Repr

/-- What the program does to the document. -/
inductive Change where
  /-- The canvas is given its identifier. -/
  | canvasNamed
  /-- The canvas is put into the root. -/
  | canvasAppended
  /-- The root is marked as taken over. -/
  | rootMarked
  deriving DecidableEq, Repr

/-- A change in words. -/
def Change.message : Change → String
  | canvasNamed => "canvas id todo_canvas"
  | canvasAppended => Markup.rootId ++ " append canvas"
  | rootMarked => Markup.rootId ++ " class hydrated"

namespace Document

/-- Whether a call is refused. -/
def refuses (d : Document) (call : DomCall) : Bool := call ∈ d.refused

/-- Whether an alert is shown. -/
def showsAlerts (d : Document) : Bool := d.hasWindow && !d.refuses .alert

/-- The alerts that are shown of those that are raised. -/
def shown (d : Document) (alerts : List String) : List String :=
  if d.showsAlerts then alerts else []

/-- The state of a page whose root carries `resource`: none where the title had to be looked for and
    could not be. -/
def state? (d : Document) (resource : String) : Option AppState :=
  match d.state.bind fun text => (Client.readModel text).toOption with
  | some model => some (.ofModel resource model)
  | none =>
    if d.refuses .querySelector then none
    else some (.unhydrated (d.title.getD defaultTitle) resource)

/-- What the program does to the document, as far as it gets, and its state if it runs. -/
def start (d : Document) : List Change × Option AppState :=
  if d.hasWindow && d.hasDocument then
    match d.root with
    | none => ([], none)
    | some path =>
      match d.state? (path.getD "") with
      | none => ([], none)
      | some state =>
        if d.refuses .createElement then ([], none)
        else if d.refuses .appendChild then ([.canvasNamed], none)
        else if d.refuses .runner then ([.canvasNamed, .canvasAppended], none)
        else ([.canvasNamed, .canvasAppended, .rootMarked], some state)
  else ([], none)

end Document

end TodoSite.Browser
