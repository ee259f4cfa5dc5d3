/-
  How a page comes by its list.

      unhydrated --begin--> loading --a model--> hydrated
                                    --a failure--> unhydrated

  A page is hydrated once.  Beginning twice and answers that nobody waits for change nothing.
-/
import TodoSite.RemoteError
import TodoSite.TodoList

namespace TodoSite

/-- Whether a page has the list it shows from the repository. -/
inductive Hydration where
  /-- It has not, and has not asked. -/
  | unhydrated
  /-- It has asked. -/
  | loading
  /-- It has this model. -/
  | hydrated (model : Model)
  deriving DecidableEq, Repr, Inhabited

namespace Hydration

/-- After the model has been asked for. -/
def begin : Hydration → Hydration
  | unhydrated => loading
  | state => state

/-- After an answer; only a page that waits takes it. -/
def resolve (state : Hydration) (result : Except RemoteError Model) : Hydration :=
  match state, result with
  | loading, .ok model => hydrated model
  | loading, .error _ => unhydrated
  | state, _ => state

/-- Whether an answer is waited for. -/
def isLoading : Hydration → Bool
  | loading => true
  | _ => false

/-- The model, once there is one. -/
def model? : Hydration → Option Model
  | hydrated model => some model
  | _ => none

/-- The list of the model, once there is one. -/
def list? (state : Hydration) : Option TodoList :=
  state.model?.map fun model => TodoList.ofItems model.items

end Hydration

end TodoSite
