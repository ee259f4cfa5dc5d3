/-
  What a page goes through, and what a late model does to it.

  A page begins with its title only, or with its model.  Then it asks for its model, text is typed and
  submitted, actions are applied, and finished work comes back, in any order.

  1. **A page that has its model** shows the title of the model, and its items as the answers have left
     them that have come in since (`Shows`).

  2. **A result that comes in** (`shown_after_result`) — a page that waits takes the model, and one
     without a model keeps what it shows.  A page that has its model goes back to it, whatever the
     result is: the answers that have come in since are lost from what it shows, although no result
     is waited for any more (`answers_taken_back`).
-/
import TodoSite.Proofs.AppState
import TodoSite.Proofs.TodoList.Run

namespace TodoSite.AppState

open TodoList (firsts ofItems acknowledgeAll)

/-! ## Runs -/

/-- What can be done to a page. -/
inductive Call where
  /-- It is to ask for its model. -/
  | beginFetch
  /-- The input field gets another text. -/
  | type (text : String)
  /-- The text in the input field is submitted. -/
  | submit
  /-- An action is applied. -/
  | dispatch (action : Action)
  /-- Finished work comes back. -/
  | handle (delivery : Delivery)

/-- The page after a call, and what the call asks for. -/
def call (s : AppState) : Call → AppState × Option Command
  | .beginFetch => (s.beginFetch.2, none)
  | .type text => ({ s with input := text }, none)
  | .submit => s.submit
  | .dispatch action => s.dispatch action
  | .handle delivery => s.handle delivery

/-- The page after calls, one after the other. -/
def run (s : AppState) (calls : List Call) : AppState :=
  calls.foldl (fun s call => (s.call call).1) s

theorem run_append (s : AppState) (calls more : List Call) : s.run (calls ++ more) = (s.run calls).run more :=
  List.foldl_append

/-- How a page begins. -/
inductive Opening where
  /-- With its title only. -/
  | titled (title resource : String)
  /-- With its model. -/
  | embedded (resource : String) (model : Model)

/-- The page at its beginning. -/
def Opening.page : Opening → AppState
  | .titled title resource => .unhydrated title resource
  | .embedded resource model => .ofModel resource model

/-! ## A page that has its model -/

/-- The answers that have come in since the last result, when `answers` are those before the call. -/
def Call.answers (answers : List PendingWrite) : Call → List PendingWrite
  | .handle (.model _) => []
  | .handle (.action (.acknowledged write)) => answers ++ [write]
  | .dispatch (.acknowledged write) => answers ++ [write]
  | _ => answers

/-- The answers that have come in along `calls` since the last result of a fetch. -/
def answersSince (calls : List Call) : List PendingWrite :=
  calls.foldl (fun answers call => call.answers answers) []

/-- If the page has its model, it shows the title of the model and its items after `answers`. -/
def Shows (s : AppState) (answers : List PendingWrite) : Prop :=
  ∀ model, s.hydration = .hydrated model →
    s.title = model.title ∧ s.list.items = ((ofItems model.items).acknowledgeAll answers).items

variable {s : AppState} {answers : List PendingWrite}

theorem Shows.dispatch (h : Shows s answers) (action : Action) :
    Shows (s.dispatch action).1 ((Call.dispatch action).answers answers) := by
  intro model hmodel
  obtain ⟨htitle, hitems⟩ := h model hmodel
  refine ⟨htitle, ?_⟩
  rw [list_dispatch]
  by_cases hanswer : ∃ write, action = .acknowledged write
  · obtain ⟨write, rfl⟩ := hanswer
    show (s.list.acknowledge write).items = ((ofItems model.items).acknowledgeAll (answers ++ [write])).items
    rw [TodoList.acknowledgeAll_concat]
    exact TodoList.items_acknowledge_congr hitems write
  · have hanswers : (Call.dispatch action).answers answers = answers := by
      cases action with
      | acknowledged write => exact absurd ⟨write, rfl⟩ hanswer
      | _ => rfl
    rw [hanswers, (TodoList.items_update s.list action).resolve_left hanswer]
    exact hitems

/-- A page that has its model after a result shows just that. -/
theorem shows_finishFetch (s : AppState) (result : Except RemoteError Model) :
    Shows (s.finishFetch result) [] := by
  intro model hmodel
  have htitle := title_finishFetch s result
  rw [hmodel] at htitle
  refine ⟨htitle, ?_⟩
  rcases finishFetch_cases s result with ⟨m, hm, hlist, -⟩ | ⟨-, hnone, -⟩
  · rw [hlist, Hydration.hydrated.inj (hmodel.symm.trans hm)]
    rfl
  · rw [hnone] at hmodel
    cases hmodel

theorem Shows.call (h : Shows s answers) (call : Call) : Shows (s.call call).1 (call.answers answers) := by
  cases call with
  | type text => exact h
  | dispatch action => exact h.dispatch action
  | submit =>
    -- the text does not matter here, nor that the field is cleared
    have hcleared : Shows { s with input := "" } answers := h
    have hsubmit : (s.call .submit).1 = (AppState.dispatch { s with input := "" } (.add s.input)).1 := rfl
    rw [hsubmit]
    exact hcleared.dispatch (.add s.input)
  | handle delivery =>
    cases delivery with
    | model result => exact shows_finishFetch s result
    | action action =>
      have hanswers : (Call.handle (.action action)).answers answers = (Call.dispatch action).answers answers := by
        cases action <;> rfl
      rw [hanswers]
      exact h.dispatch action
  | beginFetch =>
    -- asking changes nothing of a page that has its model
    intro model hmodel
    refine h model ?_
    show s.hydration = _
    have hbegin : s.hydration.begin = .hydrated model := hmodel
    cases hs : s.hydration with
    | hydrated m => rwa [hs] at hbegin
    | unhydrated => rw [hs] at hbegin; cases hbegin
    | loading => rw [hs] at hbegin; cases hbegin

theorem shows_run (o : Opening) (calls : List Call) : Shows (o.page.run calls) (answersSince calls) := by
  induction calls using List.reverseRecOn with
  | nil =>
    intro model hmodel
    cases o with
    | titled title resource => cases hmodel
    | embedded resource m =>
      cases hmodel
      exact ⟨rfl, rfl⟩
  | append_singleton calls call ih =>
    have hrun : o.page.run (calls ++ [call]) = ((o.page.run calls).call call).1 := List.foldl_concat _ _ _ _
    have hanswers : answersSince (calls ++ [call]) = call.answers (answersSince calls) :=
      List.foldl_concat _ _ _ _
    rw [hrun, hanswers]
    exact ih.call call

/-! ## A result that comes in -/

/-- **What a result of a fetch does to what the page shows**, whatever has happened before. -/
theorem shown_after_result (o : Opening) (calls : List Call) (result : Except RemoteError Model) :
    let s := o.page.run calls
    let s' := (s.handle (.model result)).1
    match s.hydration, result with
    | .loading, .ok model => s'.title = model.title ∧ s'.list = { items := firsts model.items, keys := s.list.keys }
    | .hydrated model, _ =>
      s'.title = s.title ∧ s'.list = { items := firsts model.items, keys := s.list.keys }
        ∧ s.list.items = ((ofItems model.items).acknowledgeAll (answersSince calls)).items
        ∧ (s'.list = s.list ↔ ((ofItems model.items).acknowledgeAll (answersSince calls)).items = firsts model.items)
    | _, _ => s'.title = s.title ∧ s'.list = s.list := by
  intro s s'
  have hshows : Shows s (answersSince calls) := shows_run o calls
  have hfinish : s' = s.finishFetch result := rfl
  unfold finishFetch at hfinish
  cases hs : s.hydration with
  | unhydrated =>
    rw [hfinish, hs]
    exact ⟨rfl, rfl⟩
  | loading =>
    rw [hfinish, hs]
    cases result with
    | error error => exact ⟨rfl, rfl⟩
    | ok model => exact ⟨rfl, congrArg (TodoList.mk · s.list.keys) (TodoList.items_ofItems_eq_firsts model.items)⟩
  | hydrated model =>
    obtain ⟨htitle, hitems⟩ := hshows model hs
    have hlist : s'.list = { items := firsts model.items, keys := s.list.keys } := by
      rw [hfinish, hs]
      exact congrArg (TodoList.mk · s.list.keys) (TodoList.items_ofItems_eq_firsts model.items)
    refine ⟨?_, hlist, hitems, ?_⟩
    · rw [hfinish, hs]
      exact htitle.symm
    · rw [hlist, ← hitems]
      exact ⟨fun h => congrArg TodoList.items h.symm, fun h => congrArg (TodoList.mk · s.list.keys) h.symm⟩

/-- A page that has its model shows a flag turned and a new item; then a fetch that nobody waits for
    fails, and both are gone. -/
theorem answers_taken_back :
    let model : Model := { title := "L", items := [{ name := "Buy milk", key := "1" }] }
    let turned : Item := { name := "Buy milk", done := true, key := "1" }
    let new : Item := { name := "Call home", key := "item2" }
    let s := (Opening.embedded "/l" model).page.run
      [.dispatch (.toggle "1"), .dispatch (.add "Call home"), .handle (.action (.acknowledged (.toggle turned))),
        .handle (.action (.acknowledged (.add new)))]
    s.hydration = .hydrated model ∧ s.list.items = [turned, new]
      ∧ (s.handle (.model (.error (.status 500)))).1.list.items = model.items := by
  decide +kernel

end TodoSite.AppState
