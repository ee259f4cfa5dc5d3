/-
  The page's program.

  The program shows its state frame by frame and never waits.  What takes time becomes a *task*: the
  fetch of the model, and one task for each command.  A task that ends may leave a *delivery*; the
  next frame applies all deliveries in the order in which they came, and makes tasks of the commands
  that they lead to.

      click, typing ──▶ command ──▶ task ··· ends ··· delivery ──▶ frame ──▶ command ──▶ …

  CRUX.  A command becomes one task, a task ends once, and a delivery is applied once: the lists
  `tasks` and `deliveries` hold exactly what is on its way.
-/
import TodoSite.AppState
import TodoSite.Component

namespace TodoSite.Browser

/-- Work that the program has begun. -/
inductive Task where
  /-- The fetch of the model. -/
  | fetch
  /-- A command of the list. -/
  | command (command : Command)
  deriving DecidableEq, Repr

/-- The program. -/
structure App where
  /-- What it shows. -/
  state : AppState
  /-- The tasks that have not ended, the oldest first. -/
  tasks : List Task := []
  /-- What tasks have left and no frame has applied, the oldest first. -/
  deliveries : List Delivery := []
  /-- Whether the input field has the focus. -/
  focused : Bool := false

namespace App

/-- The program with one more task for a command, if there is one. -/
def spawn (app : App) : Option Command → App
  | none => app
  | some command => { app with tasks := app.tasks ++ [.command command] }

/-- A program that begins with `state`: unless it has its model, it fetches it. -/
def start (state : AppState) : App :=
  let (started, state) := state.beginFetch
  { state, tasks := if started then [.fetch] else [] }

/-! ## Frames -/

/-- Applies one delivery. -/
def receive (app : App) (delivery : Delivery) : App :=
  let (state, command) := app.state.handle delivery
  { app with state }.spawn command

/-- Applies everything that has been delivered. -/
def frame (app : App) : App :=
  app.deliveries.foldl receive { app with deliveries := [] }

/-! ## What a person does -/

/-- Applies an action that a person asks for. -/
def dispatch (app : App) (action : Action) : App :=
  let (state, command) := app.state.dispatch action
  { app with state, focused := false }.spawn command

/-- Clicks the link of a row; none where there is no such row. -/
def toggleRow? (app : App) (row : Nat) : Option App :=
  (app.state.view.rows[row]?).map fun row => app.dispatch (.toggle row.key)

/-- Whether a text is typed: a line end alone is a key and no text. -/
def isTyped (text : String) : Bool := text ≠ "\n" && text ≠ "\r"

/-- Clicks the input field and types at its end. -/
def type (app : App) (text : String) : App :=
  let input := if isTyped text then app.state.input ++ text else app.state.input
  { app with state := { app.state with input }, focused := true }

/-- Submits the input field. -/
def submit (app : App) : App :=
  let (state, command) := app.state.submit
  { app with state, focused := false }.spawn command

/-- Presses Enter, which submits the field that has the focus. -/
def enter (app : App) : App :=
  if app.focused then app.submit else app

/-! ## Tasks -/

/-- Takes a task away; none where there are not so many. -/
def takeTask? (app : App) (index : Nat) : Option (Task × App) :=
  (app.tasks[index]?).map fun task =>
    (task, { app with tasks := app.tasks.eraseIdx index })

/-- Adds what a task leaves. -/
def deliver (app : App) (delivery : Option Delivery) : App :=
  { app with deliveries := app.deliveries ++ delivery.toList }

end App

/-! ## Running tasks -/

/-- Runs a task to its end: what it leaves, the alerts it raises, and the store afterwards. -/
def Task.run {σ : Type} (store : ItemStore σ) (resource : String) (s : σ) :
    Task → Option Delivery × List String × σ
  | .fetch =>
    let (result, s) := store.fetch s resource
    (some (.model result), [], s)
  | .command c =>
    let outcome := c.run store resource s
    (outcome.report.map .action, outcome.alerts, outcome.store)

end TodoSite.Browser
