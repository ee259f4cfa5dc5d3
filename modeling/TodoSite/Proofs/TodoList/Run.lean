/-
  What a list goes through.

  A list begins with items that it is given, with those first shown, or empty.  Then actions are
  applied to it and its items are replaced, in any order and with anything in them: an answer may
  come twice, or belong to no write of this list.

  1. **One change** — only an answer or a replacement touches the items, and it leaves the keys
     different (`nodup_change`).

  2. **Actions** (`prefix_run_actions`) — the items stay in their places under their names and turn
     their flags by `Action.flag`; everything else comes after them.

  CRUX.  A flag is set at the first item with the key of the answer.  That this is the only such item
  is what `nodup_change` carries along a run; without it, `Item.after` would be wrong of the others.
-/
import Mathlib.Data.List.Nodup
import TodoSite.Proofs.TodoList

namespace TodoSite

/-! ## What actions do to an item -/

/-- The flag of an item after an action that finds it `done`. -/
def Action.flag (key : String) (done : Bool) : Action → Bool
  | .acknowledged (.toggle item) => if item.key = key then item.done else done
  | _ => done

/-- An item of a list after actions, one after the other. -/
def Item.after (item : Item) (actions : List Action) : Item :=
  { item with done := actions.foldl (fun done action => action.flag item.key done) item.done }

/-- What an item keeps for good: its key, its name and its path. -/
def Item.lasting (item : Item) : String × String × Option String := (item.key, item.name, item.path)

namespace TodoList

/-! ## Runs -/

/-- What can be done to a list. -/
inductive Change where
  /-- An action is applied. -/
  | update (action : Action)
  /-- The items are replaced. -/
  | replace (items : List Item)
  deriving DecidableEq, Repr

/-- The list after a change, and what the change asks for. -/
def change (list : TodoList) : Change → TodoList × Option Command
  | .update action => list.update action
  | .replace items => (list.replaceItems items, none)

/-- The list after changes, one after the other. -/
def run (list : TodoList) (changes : List Change) : TodoList :=
  changes.foldl (fun list change => (list.change change).1) list

/-- How a list begins. -/
inductive Beginning where
  /-- With items that it is given. -/
  | given (items : List Item)
  /-- With the items first shown. -/
  | placeholder
  /-- Without items. -/
  | empty
  deriving DecidableEq, Repr

/-- The list at its beginning. -/
def Beginning.list : Beginning → TodoList
  | .given items => ofItems items
  | .placeholder => TodoList.placeholder
  | .empty => {}

variable {list : TodoList}

/-! ## One change -/

/-- Only an answer touches the items. -/
theorem items_update (list : TodoList) (action : Action) :
    (∃ write, action = .acknowledged write) ∨ (list.update action).1.items = list.items := by
  cases action with
  | acknowledged write => exact Or.inl ⟨write, rfl⟩
  | rejected write reason => exact Or.inr rfl
  | add raw =>
    right
    rw [update]
    dsimp only
    split <;> rfl
  | toggle key =>
    right
    rw [update]
    split <;> rfl

theorem nodup_acknowledge (h : (list.items.map Item.key).Nodup) (write : PendingWrite) :
    ((list.acknowledge write).items.map Item.key).Nodup := by
  cases write with
  | toggle item =>
    have hkeys : (setDone item.key item.done list.items).map Item.key = list.items.map Item.key :=
      map_setDone (fun _ _ => rfl) _ _ _
    exact hkeys ▸ h
  | add item =>
    by_cases hmem : item.key ∈ list.items.map Item.key
    · rw [acknowledge_add_of_mem hmem]
      exact h
    · rw [acknowledge_add_of_not_mem hmem]
      show ((list.items ++ [item]).map Item.key).Nodup
      rw [List.map_append, List.map_singleton, ← List.concat_eq_append]
      exact h.concat hmem

/-- **Keys stay different**, whatever is done to a list. -/
theorem nodup_change (h : (list.items.map Item.key).Nodup) (change : Change) :
    ((list.change change).1.items.map Item.key).Nodup := by
  cases change with
  | replace items => exact nodup_ofItems items
  | update action =>
    rcases items_update list action with ⟨write, rfl⟩ | hsame
    · exact nodup_acknowledge h write
    · exact (congrArg (fun items => (items.map Item.key).Nodup) hsame).mpr h

theorem nodup_run (h : (list.items.map Item.key).Nodup) (changes : List Change) :
    ((list.run changes).items.map Item.key).Nodup := by
  induction changes generalizing list with
  | nil => exact h
  | cons change changes ih => exact ih (nodup_change h change)

theorem nodup_beginning (b : Beginning) : (b.list.items.map Item.key).Nodup := by
  cases b with
  | given items => exact nodup_ofItems items
  | placeholder => exact nodup_ofItems placeholderItems
  | empty => exact List.nodup_nil

/-! ## Actions in a row -/

/-- What an answer does to the items, where the keys differ. -/
theorem prefix_acknowledge (h : (list.items.map Item.key).Nodup) (write : PendingWrite) :
    list.items.map (·.after [.acknowledged write]) <+: (list.acknowledge write).items := by
  cases write with
  | toggle turned =>
    have hmap : list.items.map (·.after [.acknowledged (.toggle turned)])
        = setDone turned.key turned.done list.items := by
      rw [setDone_eq_map h]
      refine List.map_congr_left fun item _ => ?_
      by_cases he : item.key = turned.key
      · rw [if_pos he, Item.after, List.foldl_cons, List.foldl_nil, Action.flag, if_pos he.symm]
      · rw [if_neg he, Item.after, List.foldl_cons, List.foldl_nil, Action.flag, if_neg (Ne.symm he)]
    exact ⟨[], (List.append_nil _).trans hmap⟩
  | add item =>
    have hstay : list.items.map (·.after [.acknowledged (.add item)]) = list.items := List.map_id list.items
    by_cases hmem : item.key ∈ list.items.map Item.key
    · rw [acknowledge_add_of_mem hmem]
      exact ⟨[], (List.append_nil _).trans hstay⟩
    · rw [acknowledge_add_of_not_mem hmem]
      exact ⟨[item], congrArg (· ++ [item]) hstay⟩

theorem prefix_update (h : (list.items.map Item.key).Nodup) (action : Action) :
    list.items.map (·.after [action]) <+: (list.update action).1.items := by
  by_cases hanswer : ∃ write, action = .acknowledged write
  · obtain ⟨write, rfl⟩ := hanswer
    exact prefix_acknowledge h write
  · -- no flag is turned, and no item joins
    have hsame : (list.update action).1.items = list.items := (items_update list action).resolve_left hanswer
    have hstay : list.items.map (·.after [action]) = list.items := by
      cases action with
      | acknowledged write => exact absurd ⟨write, rfl⟩ hanswer
      | _ => exact List.map_id list.items
    exact ⟨[], (List.append_nil _).trans (hstay.trans hsame.symm)⟩

/-- **What actions do to the items**: those that were there stay in front, each with its flag turned by
    the answers that carry its key. -/
theorem prefix_run_actions (h : (list.items.map Item.key).Nodup) (actions : List Action) :
    list.items.map (·.after actions) <+: (list.run (actions.map .update)).items := by
  induction actions generalizing list with
  | nil => exact (List.map_id list.items).symm ▸ List.prefix_refl _
  | cons action actions ih =>
    have hnext := ih (nodup_change h (.update action))
    have hone : (list.items.map (·.after [action])).map (·.after actions)
        <+: (list.update action).1.items.map (·.after actions) := (prefix_update h action).map _
    rw [List.map_map] at hone
    exact hone.trans hnext

/-- An answer under a key that is taken, and one that turns a flag under another name. -/
example :
    (Beginning.placeholder.list.run [.update (.acknowledged (.add { name := "Call home", key := "2" })),
        .update (.acknowledged (.toggle { name := "Call home", key := "2" }))]).items
      = placeholderItems.map ({ · with done := false }) := by
  decide +kernel

/-! ## Whole runs -/

/-- **A list keeps what it has.** -/
theorem items_over_run (b : Beginning) (changes : List Change) (actions : List Action) :
    let list := b.list.run changes
    let later := list.run (actions.map .update)
    (list.items.map Item.key).Nodup
      ∧ (∀ items, (ofItems items).items = firsts items ∧ (list.replaceItems items).items = firsts items)
      ∧ (∀ change, (list.change change).1.items ≠ list.items →
        (∃ write, change = .update (.acknowledged write)) ∨ ∃ items, change = .replace items)
      ∧ list.items.map Item.lasting <+: later.items.map Item.lasting
      ∧ list.items.map (·.after actions) <+: later.items := by
  intro list later
  have hnodup : (list.items.map Item.key).Nodup := nodup_run (nodup_beginning b) changes
  have hactions : list.items.map (·.after actions) <+: later.items := prefix_run_actions hnodup actions
  refine ⟨hnodup, fun items => ⟨items_ofItems_eq_firsts items, items_ofItems_eq_firsts items⟩, ?_, ?_, hactions⟩
  · intro change hne
    cases change with
    | replace items => exact Or.inr ⟨items, rfl⟩
    | update action =>
      rcases items_update list action with ⟨write, rfl⟩ | hsame
      · exact Or.inl ⟨write, rfl⟩
      · exact absurd hsame hne
  · have hlasting : (list.items.map (·.after actions)).map Item.lasting = list.items.map Item.lasting :=
      List.map_map
    exact hlasting ▸ hactions.map Item.lasting

end TodoList

end TodoSite
