/-
  A list bound to a store.

  A `Component` handles one action at a time and does not come back before it is settled: the action
  is applied to the list, the command it asks for is run, the outcome is the next action, and so on.

  CRUX.  What a person asks for is followed by one answer, and an answer by nothing but perhaps an
  alert.  So `Action.turns`, two or one, bounds the number of transitions, and the loop never ends
  for want of them.
-/
import TodoSite.ItemStore
import TodoSite.View

namespace TodoSite

/-! ## Running a command -/

/-- What running a command leads to. -/
structure Outcome (σ : Type) where
  /-- The action that reports it. -/
  report : Option Action
  /-- The alerts that were raised. -/
  alerts : List String
  /-- The store afterwards. -/
  store : σ

/-- Runs a command for the list at `resource`: a write is reported as taken or refused, an alert is
    raised and not reported. -/
def Command.run {σ : Type} (store : ItemStore σ) (resource : String) (s : σ) : Command → Outcome σ
  | .write w =>
    match store.write s resource w.item with
    | (.ok (), s) => { report := some (.acknowledged w), alerts := [], store := s }
    | (.error e, s) => { report := some (.rejected w e.message), alerts := [], store := s }
  | .alert message => { report := none, alerts := [message], store := s }

/-! ## The component -/

/-- A list, the path it is bound to, and the state of its store. -/
structure Component (σ : Type) where
  /-- The list. -/
  list : TodoList
  /-- The path of the list in the repository. -/
  resource : String
  /-- The state of the store. -/
  store : σ

/-- What handling an action leads to. -/
structure Settled (σ : Type) where
  /-- The component afterwards. -/
  component : Component σ
  /-- Whether some transition changed the items. -/
  changed : Bool
  /-- The alerts that were raised. -/
  alerts : List String

/-- How many transitions an action can lead to, itself included. -/
def Action.turns : Action → Nat
  | .add _ | .toggle _ => 2
  | .acknowledged _ | .rejected _ _ => 1

namespace Component

variable {σ : Type}

/-- Handles an action and its reports, within `turns` transitions. -/
def dispatchWithin (store : ItemStore σ) : (turns : Nat) → Component σ → Action → Settled σ
  | 0, c, _ => { component := c, changed := false, alerts := [] }
  | turns + 1, c, action =>
    let (list, command) := c.list.update action
    let changed := list.items ≠ c.list.items
    match command with
    | none => { component := { c with list }, changed, alerts := [] }
    | some command =>
      let outcome := command.run store c.resource c.store
      let c := { c with list, store := outcome.store }
      match outcome.report with
      | none => { component := c, changed, alerts := outcome.alerts }
      | some report =>
        let rest := dispatchWithin store turns c report
        { rest with changed := changed || rest.changed, alerts := outcome.alerts ++ rest.alerts }

/-- Handles an action and everything that follows from it. -/
def dispatch (store : ItemStore σ) (c : Component σ) (action : Action) : Settled σ :=
  dispatchWithin store action.turns c action

/-- Submits the text of the input field. -/
def add (store : ItemStore σ) (c : Component σ) (raw : String) : Settled σ :=
  c.dispatch store (.add raw)

/-- Turns the flag of an item. -/
def toggle (store : ItemStore σ) (c : Component σ) (key : String) : Settled σ :=
  c.dispatch store (.toggle key)

/-- What is shown of the list. -/
def view (c : Component σ) : ListView := c.list.view

end Component

end TodoSite
