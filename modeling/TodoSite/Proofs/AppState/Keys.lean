/-
  No key is given out twice.

  A list and a page ask for new items as texts are submitted.  In between anything may happen to them:
  items are replaced by fewer ones, answers come in out of order or for writes that never were.

  1. **One step** (`Leads`) — the key sequence does not go back, and where a new item is asked for it
     passes the number of the key.

  2. **Steps in a row** (`Chain.numbered`) — the numbers of later keys are not below the sequence at the
     beginning.

  3. **Runs** (`keys_given_out_once`) — the runs of a list and those of a page are chains of such steps,
     so all keys along them differ.
-/
import TodoSite.Proofs.AppState.Run
import TodoSite.Proofs.KeySequence

namespace TodoSite

/-! ## Steps -/

/-- One step of a list or a page, as far as new items go. -/
structure Submission where
  /-- The list at that moment. -/
  list : TodoList
  /-- The text that is submitted, if one is. -/
  raw : Option String
  /-- What the step asks for. -/
  command : Option Command

/-- The new item that a step asks for. -/
def Submission.newItem? (step : Submission) : Option Item :=
  match step.command with
  | some (.write (.add item)) => some item
  | _ => none

/-- What is promised of the new items that steps ask for. -/
structure GivenOutOnce (steps : List Submission) : Prop where
  /-- Their keys differ from each other. -/
  distinct : ((steps.filterMap Submission.newItem?).map Item.key).Nodup
  /-- The key of each differs from those in the list at that moment. -/
  fresh : ∀ step ∈ steps, ∀ item, step.newItem? = some item → item.key ∉ step.list.items.map Item.key
  /-- Each is named by the text that is submitted, without the white space around it; it is not done, and
      comes from no node. -/
  named : ∀ step ∈ steps, ∀ item, step.newItem? = some item →
    ∃ raw, step.raw = some raw ∧ item.name = Text.trim raw ∧ item.name ≠ "" ∧ item.done = false ∧ item.path = none
  /-- Every text that is not blank leads to one. -/
  asked : ∀ step ∈ steps, ∀ raw, step.raw = some raw → Text.trim raw ≠ "" → step.newItem?.isSome

/-- The text that an action submits. -/
def Action.raw? : Action → Option String
  | .add raw => some raw
  | _ => none

/-- The text that a change of a list submits. -/
def TodoList.Change.raw? : TodoList.Change → Option String
  | .update action => action.raw?
  | .replace _ => none

/-- The steps of a list along changes. -/
def TodoList.steps (list : TodoList) : List TodoList.Change → List Submission
  | [] => []
  | change :: changes =>
    ⟨list, change.raw?, (list.change change).2⟩ :: (list.change change).1.steps changes

/-- The text that a call of a page with the text `input` in its field submits. -/
def AppState.Call.raw? (input : String) : AppState.Call → Option String
  | .submit => some input
  | .dispatch action => action.raw?
  | .handle (.action action) => action.raw?
  | _ => none

/-- The steps of a page along calls. -/
def AppState.steps (s : AppState) : List AppState.Call → List Submission
  | [] => []
  | call :: calls => ⟨s.list, call.raw? s.input, (s.call call).2⟩ :: (s.call call).1.steps calls

/-! ## One step -/

/-- What a step to `list'` does. -/
inductive Leads (step : Submission) (list' : TodoList) : Prop where
  /-- It asks for no new item; nothing is submitted but white space. -/
  | quiet (hnext : step.list.keys.next ≤ list'.keys.next) (hnew : step.newItem? = none)
    (hraw : ∀ raw, step.raw = some raw → Text.trim raw = "")
  /-- It asks for a new item under the next key. -/
  | asks (raw : String) (hraw : step.raw = some raw) (hname : Text.trim raw ≠ "") (n : Nat)
    (hnumber : n = step.list.keys.number (step.list.items.map Item.key)) (hnext : list'.keys.next = n + 1)
    (hnew : step.newItem? = some { name := Text.trim raw, key := KeySequence.key n })

theorem leads_update (list : TodoList) (action : Action) :
    Leads ⟨list, action.raw?, (list.update action).2⟩ (list.update action).1 := by
  cases action with
  | add raw =>
    rw [TodoList.update]
    by_cases h : Text.trim raw = ""
    · rw [if_pos h]
      exact .quiet (Nat.le_refl _) rfl fun raw' hraw => Option.some.inj hraw ▸ h
    · rw [if_neg h]
      exact .asks raw rfl h _ rfl rfl rfl
  | toggle key =>
    rw [TodoList.update]
    split
    · exact .quiet (Nat.le_refl _) rfl fun raw hraw => by cases hraw
    · exact .quiet (Nat.le_refl _) rfl fun raw hraw => by cases hraw
  | acknowledged write =>
    exact .quiet (Nat.le_of_eq (congrArg KeySequence.next (list.keys_acknowledge write).symm)) rfl
      fun raw hraw => by cases hraw
  | rejected write reason => exact .quiet (Nat.le_refl _) rfl fun raw hraw => by cases hraw

theorem leads_change (list : TodoList) (change : TodoList.Change) :
    Leads ⟨list, change.raw?, (list.change change).2⟩ (list.change change).1 := by
  cases change with
  | update action => exact leads_update list action
  | replace items => exact .quiet (Nat.le_refl _) rfl fun raw hraw => by cases hraw

theorem leads_dispatch (s : AppState) (action : Action) :
    Leads ⟨s.list, action.raw?, (s.dispatch action).2⟩ (s.dispatch action).1.list := leads_update s.list action

theorem leads_call (s : AppState) (call : AppState.Call) :
    Leads ⟨s.list, call.raw? s.input, (s.call call).2⟩ (s.call call).1.list := by
  cases call with
  | beginFetch => exact .quiet (Nat.le_refl _) rfl fun raw hraw => by cases hraw
  | type text => exact .quiet (Nat.le_refl _) rfl fun raw hraw => by cases hraw
  | submit =>
    have hsubmit : s.call .submit = AppState.dispatch { s with input := "" } (.add s.input) := rfl
    rw [hsubmit]
    exact leads_dispatch { s with input := "" } (.add s.input)
  | dispatch action => exact leads_dispatch s action
  | handle delivery =>
    cases delivery with
    | action action => exact leads_dispatch s action
    | model result =>
      exact .quiet (Nat.le_of_eq (congrArg KeySequence.next (s.keys_finishFetch result).symm)) rfl
        fun raw hraw => by cases hraw

/-! ## Steps in a row -/

/-- Steps of which each begins with the list that the one before has led to. -/
inductive Chain : TodoList → List Submission → Prop where
  /-- No step. -/
  | nil (list : TodoList) : Chain list []
  /-- A first step. -/
  | cons {step : Submission} {list' : TodoList} {steps : List Submission} (hstep : Leads step list')
    (hsteps : Chain list' steps) : Chain step.list (step :: steps)

theorem chain_changes (list : TodoList) (changes : List TodoList.Change) : Chain list (list.steps changes) := by
  induction changes generalizing list with
  | nil => exact .nil list
  | cons change changes ih => exact .cons (leads_change list change) (ih _)

theorem chain_calls (s : AppState) (calls : List AppState.Call) : Chain s.list (s.steps calls) := by
  induction calls generalizing s with
  | nil => exact .nil s.list
  | cons call calls ih => exact .cons (leads_call s call) (ih _)

/-- The keys along a chain have numbers that the sequence at its beginning has not reached. -/
theorem Chain.numbered {list : TodoList} {steps : List Submission} (h : Chain list steps) :
    ∀ item ∈ steps.filterMap Submission.newItem?, ∃ n, list.keys.next ≤ n ∧ item.key = KeySequence.key n := by
  induction h with
  | nil list => exact fun item hitem => absurd hitem List.not_mem_nil
  | @cons step list' steps hstep _ ih =>
    intro item hitem
    cases hstep with
    | quiet hnext hnew hraw =>
      rw [List.filterMap_cons_none hnew] at hitem
      obtain ⟨n, hle, hkey⟩ := ih item hitem
      exact ⟨n, Nat.le_trans hnext hle, hkey⟩
    | asks raw hraw hname n hnumber hnext hnew =>
      have hle : step.list.keys.next ≤ n := hnumber ▸ KeySequence.next_le_number _ _
      rw [List.filterMap_cons_some hnew] at hitem
      rcases List.mem_cons.mp hitem with rfl | hitem
      · exact ⟨n, hle, rfl⟩
      · obtain ⟨m, hm, hkey⟩ := ih item hitem
        exact ⟨m, by omega, hkey⟩

/-- **Along a chain no key is given out twice.** -/
theorem Chain.givenOutOnce {list : TodoList} {steps : List Submission} (h : Chain list steps) :
    GivenOutOnce steps := by
  induction h with
  | nil list =>
    exact ⟨List.nodup_nil, fun _ h => absurd h List.not_mem_nil, fun _ h => absurd h List.not_mem_nil,
      fun _ h => absurd h List.not_mem_nil⟩
  | @cons step list' steps hstep hsteps ih =>
    cases hstep with
    | quiet hnext hnew hraw =>
      have hnone : ∀ item, step.newItem? ≠ some item := fun item he => by rw [hnew] at he; cases he
      refine ⟨?_, ?_, ?_, ?_⟩
      · rw [List.filterMap_cons_none hnew]
        exact ih.distinct
      · exact List.forall_mem_cons.mpr ⟨fun item he => absurd he (hnone item), ih.fresh⟩
      · exact List.forall_mem_cons.mpr ⟨fun item he => absurd he (hnone item), ih.named⟩
      · exact List.forall_mem_cons.mpr ⟨fun raw he hname => absurd (hraw raw he) hname, ih.asked⟩
    | asks raw hraw hname n hnumber hnext hnew =>
      refine ⟨?_, ?_, ?_, ?_⟩
      · -- later numbers are higher, and the key tells them apart
        rw [List.filterMap_cons_some hnew, List.map_cons]
        refine List.nodup_cons.mpr ⟨fun hmem => ?_, ih.distinct⟩
        obtain ⟨item, hitem, hkey⟩ := List.mem_map.mp hmem
        obtain ⟨m, hm, hkey'⟩ := hsteps.numbered item hitem
        have := KeySequence.key_inj (hkey'.symm.trans hkey)
        omega
      · refine List.forall_mem_cons.mpr ⟨fun item he => ?_, ih.fresh⟩
        cases hnew.symm.trans he
        exact hnumber ▸ KeySequence.key_number_not_mem _ _
      · refine List.forall_mem_cons.mpr ⟨fun item he => ?_, ih.named⟩
        cases hnew.symm.trans he
        exact ⟨raw, hraw, rfl, hname, rfl, rfl⟩
      · exact List.forall_mem_cons.mpr ⟨fun _ _ _ => by rw [hnew]; rfl, ih.asked⟩

/-! ## Runs -/

/-- **No key is given out twice**, along any run of a list and along any run of a page. -/
theorem keys_given_out_once (list : TodoList) (changes : List TodoList.Change) (s : AppState)
    (calls : List AppState.Call) : GivenOutOnce (list.steps changes) ∧ GivenOutOnce (s.steps calls) :=
  ⟨(chain_changes list changes).givenOutOnce, (chain_calls s calls).givenOutOnce⟩

/-- The sequence goes on where all items are taken away in between. -/
example :
    ((TodoList.placeholder.steps [.update (.add "Call home"), .replace [], .update (.add " "),
        .update (.add " Buy milk ")]).filterMap Submission.newItem?)
      = [{ name := "Call home", key := "item4" }, { name := "Buy milk", key := "item5" }] := by
  decide +kernel

end TodoSite
