/-
  A person at a browser.

  A session joins the program, the document it runs in, and the network.  Tasks end when the session
  says so, in any order.  After each step there is a frame, and a report of what can be seen: the
  page, the requests and the alerts since the last report, and how many tasks there are.
-/
import TodoSite.Browser.App
import TodoSite.Browser.Document

namespace TodoSite.Browser

/-- One step of a session. -/
inductive Step where
  /-- Nothing but a frame. -/
  | frame
  /-- The task at this place in the queue runs to its end. -/
  | settle (task : Nat)
  /-- A click on the link of a row. -/
  | toggle (row : Nat)
  /-- A click on the input field, and some typing. -/
  | type (text : String)
  /-- A click on the button. -/
  | add
  /-- The key Enter. -/
  | enter
  deriving DecidableEq, Repr

/-- Why a step cannot be done. -/
inductive StepError where
  /-- The program does not run. -/
  | noApp
  /-- There is no such row. -/
  | noRow
  /-- There is no such task. -/
  | noTask
  deriving DecidableEq, Repr

/-- What can be seen after a step. -/
structure Report where
  /-- The state of the page. -/
  state : AppState
  /-- The requests since the last report. -/
  sent : List Outgoing
  /-- The alerts shown since then. -/
  alerts : List String
  /-- How many tasks have not ended. -/
  pending : Nat

/-- A session in which the program runs. -/
structure Session where
  /-- The document. -/
  document : Document
  /-- The network; it records the requests since the last report. -/
  network : Network
  /-- The program. -/
  app : App
  /-- The alerts shown since the last report. -/
  alerts : List String := []

namespace Session

/-- What can be seen, and the session after it has been reported. -/
def report (s : Session) : Report × Session :=
  ({ state := s.app.state, sent := s.network.sent, alerts := s.alerts, pending := s.app.tasks.length },
    { s with network := { s.network with sent := [] }, alerts := [] })

/-- A task runs to its end. -/
def settle? (s : Session) (task : Nat) : Option Session :=
  (s.app.takeTask? task).map fun (task, app) =>
    let (delivery, alerts, network) := task.run Client.store app.state.resource s.network
    { s with network, app := app.deliver delivery, alerts := s.alerts ++ s.document.shown alerts }

/-- What a step does before the frame. -/
def act (s : Session) : Step → Except StepError Session
  | .frame => .ok s
  | .settle task =>
    match s.settle? task with
    | some s => .ok s
    | none => .error .noTask
  | .toggle row =>
    match s.app.toggleRow? row with
    | some app => .ok { s with app }
    | none => .error .noRow
  | .type text => .ok { s with app := s.app.type text }
  | .add => .ok { s with app := s.app.submit }
  | .enter => .ok { s with app := s.app.enter }

/-- A step, the frame after it, and what can be seen then.  A step that cannot be done leaves the
    session as it was. -/
def step (s : Session) (step : Step) : Except StepError (Report × Session) :=
  (s.act step).map fun s => { s with app := s.app.frame }.report

end Session

/-- Opens a page: what its program does to the document, and the session if it runs. -/
def openPage (document : Document) (network : Network) : List Change × Option Session :=
  let (changes, state) := document.start
  (changes, state.map fun state => { document, network, app := App.start state })

end TodoSite.Browser
