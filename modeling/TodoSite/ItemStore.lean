/-
  The repository as a list sees it.

  An `ItemStore` answers two calls: write one item of a list, fetch the model of a list.  What it
  keeps between calls is its state `σ`; every call gives the state afterwards.  A list that is used
  through this interface works with any store, whatever it answers.
-/
import TodoSite.Hydration

namespace TodoSite

/-- A store with states in `σ`. -/
structure ItemStore (σ : Type) where
  /-- Writes an item of the list at a path. -/
  write : σ → (resource : String) → Item → Except RemoteError Unit × σ
  /-- Fetches the model of the list at a path. -/
  fetch : σ → (resource : String) → Except RemoteError Model × σ

/-- Hydrates once from the list at `resource`. -/
def ItemStore.hydrate {σ : Type} (store : ItemStore σ) (s : σ) (resource : String) : Hydration × σ :=
  let (result, s) := store.fetch s resource
  (Hydration.unhydrated.begin.resolve result, s)

/-! ## A store whose answers are laid out in advance -/

/-- The answers that a prepared store has left, and the writes that it has been asked for. -/
structure Prepared where
  /-- What the next writes are refused for; none is an acceptance, and so is the end of the list. -/
  outcomes : List (Option RemoteError) := []
  /-- What every fetch gives. -/
  model : Except RemoteError Model := .ok {}
  /-- The writes so far, each with the path of its list. -/
  writes : List (String × Item) := []
  /-- The paths of the fetches so far. -/
  fetches : List String := []

/-- The store that gives the answers laid out in advance. -/
def ItemStore.prepared : ItemStore Prepared where
  write s resource item :=
    let s' := { s with outcomes := s.outcomes.tail, writes := s.writes ++ [(resource, item)] }
    match s.outcomes.head?.join with
    | none => (.ok (), s')
    | some error => (.error error, s')
  fetch s resource := (s.model, { s with fetches := s.fetches ++ [resource] })

end TodoSite
