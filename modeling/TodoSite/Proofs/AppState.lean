/-
  What an action and the outcome of a fetch do to a page.

  An action goes to the list and leaves the rest of the page alone.  The outcome of a fetch either
  leaves the list alone, or makes its items those of the model that the page has afterwards; the key
  sequence goes on in both cases.
-/
import TodoSite.AppState

namespace TodoSite.AppState

theorem list_dispatch (s : AppState) (action : Action) :
    (s.dispatch action).1.list = (s.list.update action).1 := rfl

/-- The outcome of a fetch makes the items those of the model that the page has afterwards, or
    leaves the list alone. -/
theorem finishFetch_cases (s : AppState) (result : Except RemoteError Model) :
    (∃ m, (s.finishFetch result).hydration = .hydrated m
      ∧ (s.finishFetch result).list = s.list.replaceItems m.items
      ∧ (s.hydration = .hydrated m ∨ s.hydration = .loading ∧ result = .ok m))
    ∨ ((∀ m, s.hydration ≠ .hydrated m) ∧ (s.finishFetch result).hydration = .unhydrated
      ∧ (s.finishFetch result).list = s.list) := by
  unfold finishFetch
  cases hs : s.hydration with
  | unhydrated => exact Or.inr ⟨fun m h => (by cases h), rfl, rfl⟩
  | hydrated m => exact Or.inl ⟨m, rfl, rfl, Or.inl rfl⟩
  -- only a page that waits takes the outcome
  | loading =>
    cases result with
    | ok m => exact Or.inl ⟨m, rfl, rfl, Or.inr ⟨rfl, rfl⟩⟩
    | error e => exact Or.inr ⟨fun m h => (by cases h), rfl, rfl⟩

theorem keys_finishFetch (s : AppState) (result : Except RemoteError Model) :
    (s.finishFetch result).list.keys = s.list.keys := by
  rcases finishFetch_cases s result with ⟨m, -, hlist, -⟩ | ⟨-, -, hlist⟩
  · rw [hlist]
    rfl
  · rw [hlist]

theorem resource_finishFetch (s : AppState) (result : Except RemoteError Model) :
    (s.finishFetch result).resource = s.resource := by
  unfold finishFetch
  dsimp only
  split <;> rfl

/-- The title is that of the model that the page has afterwards, if it has one. -/
theorem title_finishFetch (s : AppState) (result : Except RemoteError Model) :
    (s.finishFetch result).title = ((s.finishFetch result).hydration.model?.map Model.title).getD s.title := by
  unfold finishFetch
  dsimp only
  split
  · rename_i hnone
    rw [hnone]
    rfl
  · rename_i hsome
    rw [hsome]
    rfl

end TodoSite.AppState
