/-
  What the page in the browser shows.

  The state joins a list with its hydration, the title, and the text in the input field.  Work that
  is done elsewhere comes back as a `Delivery`: a model that was fetched, or an action that reports
  the outcome of a write.
-/
import TodoSite.View
import TodoSite.Hydration

namespace TodoSite

/-- What finished work gives back. -/
inductive Delivery where
  /-- The model, or why there is none. -/
  | model (result : Except RemoteError Model)
  /-- What happened to a write. -/
  | action (action : Action)

/-- The state of the page. -/
structure AppState where
  /-- The heading. -/
  title : String
  /-- The path of the list. -/
  resource : String
  /-- The text in the input field. -/
  input : String := ""
  /-- Whether the list comes from the repository. -/
  hydration : Hydration
  /-- The list. -/
  list : TodoList

namespace AppState

/-- A page that knows its title only. -/
def unhydrated (title resource : String) : AppState :=
  { title, resource, hydration := .unhydrated, list := .placeholder }

/-- A page that carries its model. -/
def ofModel (resource : String) (model : Model) : AppState :=
  { title := model.title, resource, hydration := .hydrated model, list := .ofItems model.items }

/-- What is shown of the list. -/
def view (s : AppState) : ListView := s.list.view

/-- Asks for the model.  The flag says whether an answer is waited for afterwards: it is, unless the
    page has its model already. -/
def beginFetch (s : AppState) : Bool × AppState :=
  let hydration := s.hydration.begin
  (hydration.isLoading, { s with hydration })

/-- Takes the answer of a fetch.  Whenever the page has a model afterwards, be it this one or an
    earlier one, the title and the items become those of the model. -/
def finishFetch (s : AppState) (result : Except RemoteError Model) : AppState :=
  let hydration := s.hydration.resolve result
  match hydration.model? with
  | none => { s with hydration }
  | some model =>
    { s with hydration, title := model.title, list := s.list.replaceItems model.items }

/-- Applies an action to the list. -/
def dispatch (s : AppState) (action : Action) : AppState × Option Command :=
  let (list, command) := s.list.update action
  ({ s with list }, command)

/-- Submits the text in the input field, and clears the field. -/
def submit (s : AppState) : AppState × Option Command :=
  { s with input := "" }.dispatch (.add s.input)

/-- Takes what finished work gives back. -/
def handle (s : AppState) : Delivery → AppState × Option Command
  | .model result => (s.finishFetch result, none)
  | .action action => s.dispatch action

end AppState

end TodoSite
