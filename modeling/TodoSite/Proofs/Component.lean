/-
  What a call does to a component.

  A component is asked to add an item or to turn a flag.  The list then asks for a write or for nothing;
  a write goes to the store, and its answer goes back to the list before the call returns.

  1. **A write and its answer** (`Attempt`) — the list takes a write that is accepted, and a refusal
     raises one alert (`dispatch_of_write`).

  2. **One call** (`settles_call`) — a call is told as a *round*, which has the write that the call has led
     to.  From the items follows what is written, if anything; from the answer of the store follows
     everything that can be seen afterwards.

  CRUX.  A new key is none of the list's, and no flag is what it was after it has been turned.  So every
  write that is accepted changes the items, and a call can say by them whether one was.
-/
import TodoSite.Component
import TodoSite.Proofs.KeySequence
import TodoSite.Proofs.TodoList

namespace TodoSite

/-! ## Writes and their answers -/

/-- A write that a store has got, with its answer. -/
structure Attempt where
  /-- The write. -/
  write : PendingWrite
  /-- What the store has answered. -/
  answer : Except RemoteError Unit

namespace Attempt

/-- Whether the write was accepted. -/
def accepted (a : Attempt) : Bool :=
  match a.answer with
  | .ok () => true
  | .error _ => false

/-- The action that reports the answer. -/
def report (a : Attempt) : Action :=
  match a.answer with
  | .ok () => .acknowledged a.write
  | .error e => .rejected a.write e.message

/-- The alerts that the answer leads to. -/
def alerts (a : Attempt) : List String :=
  match a.answer with
  | .ok () => []
  | .error e => [a.write.refusal e.message]

/-- A list after the answer. -/
def settle (a : Attempt) (list : TodoList) : TodoList :=
  if a.accepted then list.acknowledge a.write else list

end Attempt

/-- A write for the list at `resource`, with what a store answers to it. -/
def PendingWrite.attempt {σ : Type} (store : ItemStore σ) (resource : String) (s : σ) (w : PendingWrite) : Attempt :=
  ⟨w, (store.write s resource w.item).1⟩

/-- **A write is run** by the store, and what the store answers is reported. -/
theorem Command.run_write {σ : Type} (store : ItemStore σ) (resource : String) (s : σ) (w : PendingWrite) :
    (Command.write w).run store resource s
      = { report := some (w.attempt store resource s).report, alerts := [],
          store := (store.write s resource w.item).2 } := by
  unfold Command.run PendingWrite.attempt
  dsimp only
  rcases store.write s resource w.item with ⟨answer, s'⟩
  cases answer with
  | ok _ => rfl
  | error e => rfl

/-- The answers to writes, one after the other, and the store after them. -/
def ItemStore.writeAll {σ : Type} (store : ItemStore σ) (resource : String) :
    σ → List Item → List (Except RemoteError Unit) × σ
  | s, [] => ([], s)
  | s, item :: items =>
    let (answer, s) := store.write s resource item
    let (answers, s) := store.writeAll resource s items
    (answer :: answers, s)

namespace Component

/-! ## Calls -/

/-- What is asked of a component. -/
inductive Call where
  /-- A text is submitted. -/
  | add (raw : String)
  /-- The flag of the item with this key is to be turned. -/
  | toggle (key : String)
  deriving DecidableEq, Repr

/-- The action that a call stands for. -/
def Call.action : Call → Action
  | .add raw => .add raw
  | .toggle key => .toggle key

/-- What a call leads to. -/
def call {σ : Type} (store : ItemStore σ) (c : Component σ) : Call → Settled σ
  | .add raw => c.add store raw
  | .toggle key => c.toggle store key

/-- A call and the write that it has led to, if any. -/
structure Round where
  /-- The call. -/
  call : Call
  /-- The write, with the answer to it. -/
  attempt : Option Attempt

namespace Round

/-- Whether there was a write, and it was accepted. -/
def accepted (round : Round) : Bool := round.attempt.any Attempt.accepted

/-- The alerts of a round: one for a write that is refused. -/
def alerts (round : Round) : List String := (round.attempt.map Attempt.alerts).getD []

/-- The item that joins the list in a round: that of an accepted write for a new one. -/
def added? (round : Round) : Option Item :=
  match round.attempt with
  | some ⟨.add item, .ok ()⟩ => some item
  | _ => none

/-- Whether the flag of the item with this key is turned in a round: by an accepted write for it. -/
def turns (key : String) (round : Round) : Bool :=
  match round.attempt with
  | some ⟨.toggle item, .ok ()⟩ => key = item.key
  | _ => false

/-- Whether a call to a list of `items` leads to this write.  A text is written as a new item, under a key
    that none has, unless it is blank; a toggle is written as the item turned, if there is one with the
    key.  The answer may be any. -/
inductive Fits (items : List Item) : Round → Prop where
  /-- A blank text. -/
  | blank {raw : String} (hname : Text.trim raw = "") : Fits items ⟨.add raw, none⟩
  /-- A text. -/
  | add {raw key : String} (answer : Except RemoteError Unit) (hname : Text.trim raw ≠ "")
    (hkey : key ∉ items.map Item.key) :
    Fits items ⟨.add raw, some ⟨.add { name := Text.trim raw, key }, answer⟩⟩
  /-- The key of no item. -/
  | absent {key : String} (hkey : key ∉ items.map Item.key) : Fits items ⟨.toggle key, none⟩
  /-- The key of an item. -/
  | toggle {item : Item} (answer : Except RemoteError Unit) (hitem : item ∈ items) :
    Fits items ⟨.toggle item.key, some ⟨.toggle item.turned, answer⟩⟩

/-- The items after a round. -/
def after (round : Round) (items : List Item) : List Item :=
  items.map (fun item => if round.turns item.key then item.turned else item) ++ round.added?.toList

/-- A round that neither adds nor turns leaves the items alone. -/
theorem after_eq_self {round : Round} (hadded : round.added? = none) (hturns : ∀ key, round.turns key = false)
    (items : List Item) : round.after items = items := by
  unfold after
  simp [hadded, hturns]

end Round

/-- What a call with this round leads to. -/
structure Settles {σ : Type} (store : ItemStore σ) (c : Component σ) (round : Round) (settled : Settled σ) :
    Prop where
  /-- The round has the write that the items ask for. -/
  fits : round.Fits c.list.items
  /-- The items are those after the round. -/
  items : settled.component.list.items = round.after c.list.items
  /-- The component stays with its list. -/
  resource : settled.component.resource = c.resource
  /-- The store has got the write of the round and nothing else. -/
  received : store.writeAll c.resource c.store (round.attempt.toList.map (·.write.item))
    = (round.attempt.toList.map Attempt.answer, settled.component.store)
  /-- The call says whether a write was accepted. -/
  changed : settled.changed = round.accepted
  /-- It raises an alert for a write that was refused. -/
  alerts : settled.alerts = round.alerts

variable {σ : Type} {store : ItemStore σ} {c : Component σ} {action : Action} {list' : TodoList}
  {w : PendingWrite}

/-! ## Handling an action -/

/-- An action that asks for nothing ends with its transition. -/
theorem dispatch_of_none (h : c.list.update action = (list', none)) :
    c.dispatch store action
      = { component := { c with list := list' }, changed := list'.items ≠ c.list.items, alerts := [] } := by
  have hturns : ∃ n, action.turns = n + 1 := by
    cases action with
    | add raw => exact ⟨1, rfl⟩
    | toggle key => exact ⟨1, rfl⟩
    | acknowledged write => exact ⟨0, rfl⟩
    | rejected write reason => exact ⟨0, rfl⟩
  obtain ⟨n, hn⟩ := hturns
  rw [dispatch, hn, dispatchWithin, h]

/-- The report of an answer is handled in one transition. -/
theorem dispatchWithin_report (c : Component σ) (a : Attempt) :
    dispatchWithin store 1 c a.report
      = { component := { c with list := a.settle c.list }
          changed := (a.settle c.list).items ≠ c.list.items
          alerts := a.alerts } := by
  obtain ⟨write, answer⟩ := a
  cases answer with
  | ok _ => rfl
  | error e => rfl

/-- **A write is settled before the call returns.** -/
theorem dispatch_of_write (h : c.list.update action = (list', some (.write w))) :
    c.dispatch store action
      = { component :=
            { c with
              list := (w.attempt store c.resource c.store).settle list'
              store := (store.write c.store c.resource w.item).2 }
          changed := (list'.items ≠ c.list.items
            || ((w.attempt store c.resource c.store).settle list').items ≠ list'.items)
          alerts := (w.attempt store c.resource c.store).alerts } := by
  have hturns : action.turns = 2 := by
    cases action with
    | add raw => rfl
    | toggle key => rfl
    | acknowledged write => cases h
    | rejected write reason => cases h
  rw [dispatch, hturns, dispatchWithin, h]
  dsimp only
  rw [Command.run_write]
  dsimp only
  rw [dispatchWithin_report]
  simp

/-! ## One call -/

theorem call_eq (store : ItemStore σ) (c : Component σ) (call : Call) :
    c.call store call = c.dispatch store call.action := by
  cases call <;> rfl

/-- A call that asks for nothing. -/
theorem settles_of_none {call : Call} (hupdate : c.list.update call.action = (c.list, none))
    (hfits : Round.Fits c.list.items ⟨call, none⟩) : Settles store c ⟨call, none⟩ (c.call store call) := by
  rw [call_eq, dispatch_of_none hupdate]
  constructor
  · exact hfits
  · exact (Round.after_eq_self rfl (fun _ => rfl) _).symm
  · rfl
  · rfl
  · exact decide_eq_false fun h => h rfl
  · rfl

/-- A call that asks for a write, which changes the items when it is accepted. -/
theorem settles_of_write (store : ItemStore σ) (call : Call)
    (hupdate : c.list.update call.action = (list', some (.write w)))
    (hlist : list'.items = c.list.items)
    (hfits : ∀ answer, Round.Fits c.list.items ⟨call, some ⟨w, answer⟩⟩)
    (hitems : (list'.acknowledge w).items = Round.after ⟨call, some ⟨w, .ok ()⟩⟩ c.list.items)
    (hne : (list'.acknowledge w).items ≠ c.list.items) :
    ∃ attempt, Settles store c ⟨call, some attempt⟩ (c.call store call) := by
  refine ⟨w.attempt store c.resource c.store, ?_⟩
  rw [call_eq, dispatch_of_write hupdate]
  have hreceived : store.writeAll c.resource c.store [w.item]
      = ([(w.attempt store c.resource c.store).answer], (store.write c.store c.resource w.item).2) := rfl
  have hwrite : (w.attempt store c.resource c.store).write = w := rfl
  generalize w.attempt store c.resource c.store = attempt at hreceived hwrite
  obtain ⟨write, answer⟩ := attempt
  subst hwrite
  cases answer with
  | ok _ =>
    constructor
    · exact hfits _
    · exact hitems
    · rfl
    · exact hreceived
    · show (decide (list'.items ≠ c.list.items) || decide ((list'.acknowledge write).items ≠ list'.items)) = true
      rw [hlist, decide_eq_true hne, Bool.or_true]
    · rfl
  | error e =>
    have hsame : Round.after ⟨call, some ⟨write, .error e⟩⟩ c.list.items = c.list.items := by
      apply Round.after_eq_self
      · cases write <;> rfl
      · intro key
        cases write <;> rfl
    constructor
    · exact hfits _
    · exact hlist.trans hsame.symm
    · rfl
    · exact hreceived
    · show (decide (list'.items ≠ c.list.items) || decide (list'.items ≠ list'.items)) = false
      rw [hlist, decide_eq_false fun h => h rfl, Bool.or_false]
    · rfl

theorem settles_add (store : ItemStore σ) (c : Component σ) (raw : String) :
    ∃ attempt, Settles store c ⟨.add raw, attempt⟩ (c.call store (.add raw)) := by
  by_cases hname : Text.trim raw = ""
  · have hupdate : c.list.update (.add raw) = (c.list, none) := by
      rw [TodoList.update]
      exact if_pos hname
    exact ⟨none, settles_of_none hupdate (.blank hname)⟩
  · have hkey := KeySequence.key_number_not_mem c.list.keys (c.list.items.map Item.key)
    generalize hn : c.list.keys.number (c.list.items.map Item.key) = n at hkey
    have hupdate : c.list.update (.add raw)
        = ({ c.list with keys := ⟨n + 1⟩ },
          some (.write (.add { name := Text.trim raw, key := KeySequence.key n }))) := by
      rw [TodoList.update, ← hn]
      exact if_neg hname
    obtain ⟨attempt, h⟩ := settles_of_write store (.add raw) hupdate rfl
      (fun answer => .add answer hname hkey)
      (by rw [TodoList.acknowledge_add_of_not_mem hkey]; simp [Round.after, Round.turns, Round.added?])
      (by rw [TodoList.acknowledge_add_of_not_mem hkey]; simp)
    exact ⟨some attempt, h⟩

theorem settles_toggle (store : ItemStore σ) (c : Component σ) (hnodup : (c.list.items.map Item.key).Nodup)
    (key : String) : ∃ attempt, Settles store c ⟨.toggle key, attempt⟩ (c.call store (.toggle key)) := by
  by_cases hmem : key ∈ c.list.items.map Item.key
  · obtain ⟨item, hitem, rfl⟩ := List.mem_map.mp hmem
    have hupdate := TodoList.update_toggle_of_mem hnodup hitem
    have hset : (c.list.acknowledge (.toggle item.turned)).items
        = c.list.items.map fun other => if other.key = item.key then other.turned else other :=
      TodoList.setDone_turned hnodup hitem
    have hafter : Round.after ⟨.toggle item.key, some ⟨.toggle item.turned, .ok ()⟩⟩ c.list.items
        = c.list.items.map fun other => if other.key = item.key then other.turned else other := by
      show (c.list.items.map fun other => if decide (other.key = item.key) = true then other.turned else other)
        ++ [] = _
      simp only [decide_eq_true_eq, List.append_nil]
    have hne : (c.list.acknowledge (.toggle item.turned)).items ≠ c.list.items := by
      -- the item itself has another flag than before
      intro he
      have hitself := List.map_eq_map_iff.mp ((hset.symm.trans he).trans (List.map_id c.list.items).symm) item hitem
      rw [if_pos rfl] at hitself
      exact Bool.not_not_eq.mpr rfl (congrArg Item.done hitself)
    obtain ⟨attempt, h⟩ := settles_of_write store (.toggle item.key) hupdate rfl
      (fun answer => .toggle answer hitem) (hset.trans hafter.symm) hne
    exact ⟨some attempt, h⟩
  · have hupdate : c.list.update (.toggle key) = (c.list, none) := by
      have hnone : c.list.get? key = none :=
        Option.not_isSome_iff_eq_none.mp fun h => hmem (TodoList.isSome_get?_iff.mp h)
      rw [TodoList.update, hnone]
    exact ⟨none, settles_of_none hupdate (.absent hmem)⟩

/-- **What a call does**, where the keys of the items differ. -/
theorem settles_call (store : ItemStore σ) (c : Component σ) (hnodup : (c.list.items.map Item.key).Nodup)
    (call : Call) : ∃ attempt, Settles store c ⟨call, attempt⟩ (c.call store call) := by
  cases call with
  | add raw => exact settles_add store c raw
  | toggle key => exact settles_toggle store c hnodup key

end Component

end TodoSite
