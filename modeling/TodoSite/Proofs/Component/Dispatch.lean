/-
  A dispatch is over after at most two transitions, and tells the truth about them.

  The loop of a dispatch (`Loop`) applies one action after another.  No count of rounds stops it: it goes on
  as long as the last transition has asked for something that is reported back.

  1. **What a transition asks for** (`TodoList.reaction`) — an answer of the store asks for no report; what asks
     for a write has left the items alone.

  2. **The loop ends** (`exists_ends`) — each turn leaves fewer turns to come (`remaining_turn_lt`), and there
     are two at most.  Where it ends is what `dispatch` gives (`Ends.settled_eq`).

  3. **What the loop tells** (`Sound`) — one turn keeps it true (`Sound.turn`), so a whole run does.

  CRUX.  The loop can only be in two places: before the first action, or between a write and the report of its
  answer.  In both of them the items are those before the call and nothing has been told yet (`Pending`); so
  what the last turn tells is what the call tells.
-/
import TodoSite.Proofs.Component
import TodoSite.Proofs.TodoList

namespace TodoSite

/-! ## What a transition asks for -/

/-- What an action can do to a list, and ask for. -/
inductive TodoList.Reaction (list : TodoList) : Action → TodoList × Option Command → Prop where
  /-- Nothing comes of what a person asks for. -/
  | idle {action : Action} {list' : TodoList} (hturns : action.turns = 2) (hitems : list'.items = list.items) :
    Reaction list action (list', none)
  /-- What a person asks for is to be written, and the items wait for the answer. -/
  | write {action : Action} {list' : TodoList} (w : PendingWrite) (hturns : action.turns = 2)
    (hitems : list'.items = list.items) : Reaction list action (list', some (.write w))
  /-- A write that was taken is applied. -/
  | acknowledged (w : PendingWrite) : Reaction list (.acknowledged w) (list.acknowledge w, none)
  /-- A write that was refused is told. -/
  | rejected (w : PendingWrite) (reason : String) :
    Reaction list (.rejected w reason) (list, some (.alert (w.refusal reason)))

theorem TodoList.reaction (list : TodoList) (action : Action) : list.Reaction action (list.update action) := by
  cases action with
  | add raw =>
    rw [update]
    dsimp only
    split
    · exact .idle rfl rfl
    · exact .write _ rfl rfl
  | toggle key =>
    rw [update]
    split
    · exact .idle rfl rfl
    · exact .write _ rfl rfl
  | acknowledged write => exact .acknowledged write
  | rejected write reason => exact .rejected write reason

/-- The writes that a command leads to, with the answers to them. -/
def Command.attempts {σ : Type} (store : ItemStore σ) (resource : String) (s : σ) : Command → List Attempt
  | .write w => [w.attempt store resource s]
  | .alert _ => []

namespace Component

/-! ## The loop -/

/-- The loop of a dispatch between two transitions. -/
structure Loop (σ : Type) where
  /-- The component as it is now. -/
  component : Component σ
  /-- The action that comes next; none ends the loop. -/
  next : Option Action
  /-- Whether some transition has changed the items. -/
  changed : Bool := false
  /-- The writes that the store has got, with the answers to them. -/
  writes : List Attempt := []
  /-- The alerts that have been raised. -/
  alerts : List String := []

namespace Loop

variable {σ : Type} {store : ItemStore σ} {c : Component σ} {action given : Action} {l l' : Loop σ} {k : Nat}

/-- The loop before the first transition. -/
def start (c : Component σ) (action : Action) : Loop σ := { component := c, next := some action }

/-- The loop after one more transition. -/
def turn (store : ItemStore σ) (l : Loop σ) : Loop σ :=
  match l.next with
  | none => l
  | some action =>
    let (list, command) := l.component.list.update action
    let changed := l.changed || list.items ≠ l.component.list.items
    match command with
    | none => { l with component := { l.component with list }, next := none, changed }
    | some command =>
      let outcome := command.run store l.component.resource l.component.store
      { component := { l.component with list, store := outcome.store }, next := outcome.report, changed
        writes := l.writes ++ command.attempts store l.component.resource l.component.store
        alerts := l.alerts ++ outcome.alerts }

/-- `Ends store l k l'`: the loop goes on from `l` for `k` transitions, and is over then, as `l'`. -/
inductive Ends (store : ItemStore σ) : Loop σ → Nat → Loop σ → Prop where
  /-- No action comes next. -/
  | done {l : Loop σ} (hnext : l.next = none) : Ends store l 0 l
  /-- One transition, and what follows. -/
  | turn {l l' : Loop σ} {action : Action} {k : Nat} (hnext : l.next = some action)
    (hrest : Ends store (l.turn store) k l') : Ends store l (k + 1) l'

/-- What a loop that is over leads to. -/
def settled (l : Loop σ) : Settled σ :=
  { component := l.component, changed := l.changed, alerts := l.alerts }

/-- How many transitions there may be to come. -/
def remaining (l : Loop σ) : Nat := (l.next.map Action.turns).getD 0

/-! ## One transition -/

theorem turn_of_none (store : ItemStore σ) {list' : TodoList} (hnext : l.next = some action)
    (hupdate : l.component.list.update action = (list', none)) :
    l.turn store = { l with
      component := { l.component with list := list' }
      next := none
      changed := l.changed || list'.items ≠ l.component.list.items } := by
  rw [turn, hnext]
  dsimp only
  rw [hupdate]

theorem turn_of_write (store : ItemStore σ) {list' : TodoList} {w : PendingWrite} (hnext : l.next = some action)
    (hupdate : l.component.list.update action = (list', some (.write w))) :
    l.turn store = { l with
      component := { l.component with
        list := list'
        store := (store.write l.component.store l.component.resource w.item).2 }
      next := some (w.attempt store l.component.resource l.component.store).report
      changed := l.changed || list'.items ≠ l.component.list.items
      writes := l.writes ++ [w.attempt store l.component.resource l.component.store] } := by
  rw [turn, hnext]
  dsimp only
  rw [hupdate]
  dsimp only
  rw [Command.run_write, List.append_nil]
  rfl

theorem turn_of_alert (store : ItemStore σ) {list' : TodoList} {message : String} (hnext : l.next = some action)
    (hupdate : l.component.list.update action = (list', some (.alert message))) :
    l.turn store = { l with
      component := { l.component with list := list' }
      next := none
      changed := l.changed || list'.items ≠ l.component.list.items
      alerts := l.alerts ++ [message] } := by
  rw [turn, hnext]
  dsimp only
  rw [hupdate]
  dsimp only [Command.run, Command.attempts]
  rw [List.append_nil]

/-! ## The end of the loop -/

theorem turns_report (a : Attempt) : a.report.turns = 1 := by
  obtain ⟨write, answer⟩ := a
  cases answer <;> rfl

theorem turns_pos (action : Action) : 0 < action.turns := by
  cases action with
  | add raw => exact Nat.two_pos
  | toggle key => exact Nat.two_pos
  | acknowledged write => exact Nat.one_pos
  | rejected write reason => exact Nat.one_pos

/-- **Each transition leaves fewer to come.** -/
theorem remaining_turn_lt (hnext : l.next = some action) : (l.turn store).remaining < l.remaining := by
  have hremaining : l.remaining = action.turns := by
    rw [remaining, hnext]
    rfl
  have hpos := turns_pos action
  rw [hremaining]
  generalize hupdate : l.component.list.update action = result
  have hreaction := l.component.list.reaction action
  rw [hupdate] at hreaction
  cases hreaction with
  | idle hturns hitems =>
    rw [turn_of_none store hnext hupdate]
    exact hpos
  | write w hturns hitems =>
    -- what asks for a write takes two transitions, and the report of its answer one
    rw [turn_of_write store hnext hupdate, hturns]
    show (w.attempt store l.component.resource l.component.store).report.turns < 2
    rw [turns_report]
    decide
  | acknowledged w =>
    rw [turn_of_none store hnext hupdate]
    exact hpos
  | rejected w reason =>
    rw [turn_of_alert store hnext hupdate]
    exact hpos

/-- **The loop ends**, after as many transitions as there may be to come, at most. -/
theorem exists_ends (store : ItemStore σ) (l : Loop σ) : ∃ k l', Ends store l k l' ∧ k ≤ l.remaining := by
  induction hn : l.remaining using Nat.strong_induction_on generalizing l with
  | _ n ih =>
    cases hnext : l.next with
    | none => exact ⟨0, l, .done hnext, Nat.zero_le _⟩
    | some action =>
      have hlt : (l.turn store).remaining < n := hn ▸ remaining_turn_lt hnext
      obtain ⟨k, l', hrest, hle⟩ := ih _ hlt (l.turn store) rfl
      exact ⟨k + 1, l', .turn hnext hrest, by omega⟩

/-- The loop ends in one way. -/
theorem Ends.unique {k' : Nat} {l'' : Loop σ} (h : Ends store l k l') (h' : Ends store l k' l'') :
    k = k' ∧ l' = l'' := by
  induction h generalizing k' l'' with
  | done hnext =>
    cases h' with
    | done => exact ⟨rfl, rfl⟩
    | turn hnext' => rw [hnext] at hnext'; cases hnext'
  | turn hnext hrest ih =>
    cases h' with
    | done hnext' => rw [hnext] at hnext'; cases hnext'
    | turn hnext' hrest' =>
      obtain ⟨rfl, rfl⟩ := ih hrest'
      exact ⟨rfl, rfl⟩

theorem Ends.eq_of_none (h : Ends store l k l') (hnext : l.next = none) : l' = l :=
  (h.unique (.done hnext)).2

/-- What is told after `s`, by a loop that has told this much already. -/
def add (l : Loop σ) (s : Settled σ) : Settled σ :=
  { s with changed := l.changed || s.changed, alerts := l.alerts ++ s.alerts }

/-- **A bound that is not too small** does not show: the loop is over before it is reached. -/
theorem Ends.settled_eq_dispatchWithin {n : Nat} (h : Ends store l k l') (hnext : l.next = some action)
    (hn : k ≤ n) : l'.settled = l.add (dispatchWithin store n l.component action) := by
  induction h generalizing action n with
  | done hnone => rw [hnone] at hnext; cases hnext
  | @turn l l' action' k hnext' hrest ih =>
    obtain rfl := Option.some.inj (hnext'.symm.trans hnext)
    obtain ⟨n, rfl⟩ : ∃ m, n = m + 1 := ⟨n - 1, by omega⟩
    rw [dispatchWithin]
    rcases hupdate : l.component.list.update action' with ⟨list', command⟩
    dsimp only
    cases command with
    | none =>
      have hturn := turn_of_none store hnext hupdate
      rw [hrest.eq_of_none (by rw [hturn]), hturn, settled, add]
      simp
    | some command =>
      cases command with
      | alert message =>
        have hturn := turn_of_alert store hnext hupdate
        rw [hrest.eq_of_none (by rw [hturn]), hturn, settled, add]
        simp [Command.run]
      | write w =>
        have hturn := turn_of_write store hnext hupdate
        have hreport : (l.turn store).next = some (w.attempt store l.component.resource l.component.store).report := by
          rw [hturn]
        rw [ih hreport (Nat.le_of_succ_le_succ hn), hturn]
        simp only [Command.run_write, add, Bool.or_assoc, List.nil_append]

/-- **A dispatch gives what the loop ends in.** -/
theorem Ends.settled_eq (h : Ends store (start c action) k l') : c.dispatch store action = l'.settled := by
  obtain ⟨k', l'', h', hle⟩ := exists_ends store (start c action)
  obtain ⟨rfl, rfl⟩ := h.unique h'
  rw [h.settled_eq_dispatchWithin rfl hle]
  show c.dispatch store action = (start c action).add (c.dispatch store action)
  simp [add, start]

/-! ## What the loop tells -/

/-- Whether `w` has been taken: the store has accepted it, or the given action says so. -/
def Taken (given : Action) (l : Loop σ) (w : PendingWrite) : Prop :=
  given = .acknowledged w ∨ ∃ a ∈ l.writes, a.accepted = true ∧ a.write = w

/-- Whether a write has been refused, by the store or as the given action says. -/
def Refused (given : Action) (l : Loop σ) : Prop :=
  (∃ w reason, given = .rejected w reason) ∨ ∃ a ∈ l.writes, a.accepted = false

/-- A loop that goes on with `action`: nothing has been told yet, and the items have not changed. -/
structure Pending (c : Component σ) (given : Action) (l : Loop σ) (action : Action) : Prop where
  /-- The items are those before the call. -/
  items : l.component.list.items = c.list.items
  /-- No change has been told. -/
  changed : l.changed = false
  /-- No alert has been raised. -/
  alerts : l.alerts = []
  /-- There has been one write at most, -/
  once : l.writes.length ≤ 1
  /-- and none if the action may ask for one. -/
  first : action.turns = 2 → l.writes = []
  /-- An answer that a write was taken is an answer to the write, or given. -/
  taken : ∀ w, action = .acknowledged w → Taken given l w
  /-- A refusal is what the action says, if there is one. -/
  refused : Refused given l ↔ ∃ w reason, action = .rejected w reason

/-- A loop that is over tells what has come of the call. -/
structure Told (c : Component σ) (given : Action) (l : Loop σ) : Prop where
  /-- The store has got one write at most. -/
  writes : l.writes.length ≤ 1
  /-- One alert was raised at most. -/
  alerts : l.alerts.length ≤ 1
  /-- A change is told just when the items have changed. -/
  changed : l.changed = true ↔ l.component.list.items ≠ c.list.items
  /-- They have only if a write was taken, which was applied to them. -/
  taken : l.component.list.items ≠ c.list.items →
    ∃ w, Taken given l w ∧ l.component.list.items = (c.list.acknowledge w).items
  /-- An alert was raised just when a write was refused. -/
  refused : l.alerts ≠ [] ↔ Refused given l
  /-- Then the items are those before the call. -/
  unchanged : l.alerts ≠ [] → l.component.list.items = c.list.items

/-- What holds of the loop all the time, if it has begun with `c` and the action `given`. -/
structure Sound (store : ItemStore σ) (c : Component σ) (given : Action) (l : Loop σ) : Prop where
  /-- The component stays with its list. -/
  resource : l.component.resource = c.resource
  /-- The store has got the writes and nothing else. -/
  received : store.writeAll c.resource c.store (l.writes.map (·.write.item))
    = (l.writes.map Attempt.answer, l.component.store)
  /-- While the loop goes on, it has told nothing. -/
  pending : ∀ action, l.next = some action → Pending c given l action
  /-- When it is over, it has told everything. -/
  told : l.next = none → Told c given l

theorem sound_start (store : ItemStore σ) (c : Component σ) (given : Action) : Sound store c given (start c given) where
  resource := rfl
  received := rfl
  pending action hnext := by
    obtain rfl := Option.some.inj hnext
    constructor
    · rfl
    · rfl
    · rfl
    · exact Nat.zero_le 1
    · exact fun _ => rfl
    · exact fun w h => Or.inl h
    · exact ⟨fun h => h.resolve_right fun ⟨a, ha, _⟩ => absurd ha List.not_mem_nil, Or.inl⟩
  told hnext := by cases hnext

/-- The loop is over, and nothing had to be told but whether the items have changed. -/
theorem Pending.told_of_none {list' : TodoList} (h : Pending c given l action)
    (hanswer : ∀ w reason, action ≠ .rejected w reason)
    (htaken : list'.items ≠ c.list.items → ∃ w, Taken given l w ∧ list'.items = (c.list.acknowledge w).items) :
    Told c given { l with
      component := { l.component with list := list' }
      next := none
      changed := l.changed || list'.items ≠ l.component.list.items } := by
  have hrefused : ¬ Refused given l := by
    intro hr
    obtain ⟨w, reason, he⟩ := h.refused.mp hr
    exact hanswer w reason he
  constructor
  · exact h.once
  · show l.alerts.length ≤ 1
    rw [h.alerts]
    exact Nat.zero_le 1
  · show (l.changed || decide (list'.items ≠ l.component.list.items)) = true ↔ list'.items ≠ c.list.items
    rw [h.changed, h.items]
    simp
  · exact htaken
  · exact ⟨fun hne => absurd h.alerts hne, fun hr => absurd hr hrefused⟩
  · exact fun hne => absurd h.alerts hne

/-- The loop is over, and a refusal has been told. -/
theorem Pending.told_rejected {w : PendingWrite} {reason : String} (h : Pending c given l (.rejected w reason)) :
    Told c given { l with
      component := { l.component with list := l.component.list }
      next := none
      changed := l.changed || l.component.list.items ≠ l.component.list.items
      alerts := l.alerts ++ [w.refusal reason] } := by
  constructor
  · exact h.once
  · show (l.alerts ++ [w.refusal reason]).length ≤ 1
    rw [h.alerts]
    exact Nat.le_refl 1
  · show (l.changed || decide (l.component.list.items ≠ l.component.list.items)) = true
      ↔ l.component.list.items ≠ c.list.items
    rw [h.changed, h.items]
    simp
  · exact fun hne => absurd h.items hne
  · show l.alerts ++ [w.refusal reason] ≠ [] ↔ Refused given l
    exact ⟨fun _ => h.refused.mpr ⟨w, reason, rfl⟩, fun _ => by simp⟩
  · exact fun _ => h.items

/-- The loop goes on with the report of the answer to its first write. -/
theorem Pending.report {list' : TodoList} {s : σ} {a : Attempt} (h : Pending c given l action)
    (hturns : action.turns = 2) (hitems : list'.items = l.component.list.items) :
    Pending c given { l with
      component := { l.component with list := list', store := s }
      next := some a.report
      changed := l.changed || list'.items ≠ l.component.list.items
      writes := l.writes ++ [a] } a.report := by
  have hnone : l.writes = [] := h.first hturns
  -- the given action is what has asked for the write, and so no answer itself
  have hgiven : ∀ w reason, given ≠ .rejected w reason := by
    rintro w reason rfl
    obtain ⟨w', reason', rfl⟩ := h.refused.mp (Or.inl ⟨w, reason, rfl⟩)
    cases hturns
  obtain ⟨write, answer⟩ := a
  constructor
  · exact hitems.trans h.items
  · show (l.changed || decide (list'.items ≠ l.component.list.items)) = false
    rw [h.changed, hitems]
    simp
  · exact h.alerts
  · show (l.writes ++ [_]).length ≤ 1
    rw [hnone]
    exact Nat.le_refl 1
  · intro hturns'
    rw [turns_report] at hturns'
    cases hturns'
  · intro w hw
    cases answer with
    | ok _ => exact Or.inr ⟨⟨write, .ok ()⟩, List.mem_append_right _ List.mem_cons_self, rfl, Action.acknowledged.inj hw⟩
    | error e => cases hw
  · show Refused given { l with writes := l.writes ++ [⟨write, answer⟩] } ↔ _
    rw [hnone]
    cases answer with
    | ok _ =>
      constructor
      · rintro (⟨w, reason, he⟩ | ⟨a, ha, haccepted⟩)
        · exact absurd he (hgiven w reason)
        · rw [List.mem_singleton.mp ha] at haccepted
          cases haccepted
      · rintro ⟨w, reason, he⟩
        cases he
    | error e =>
      exact ⟨fun _ => ⟨write, e.message, rfl⟩, fun _ => Or.inr ⟨⟨write, .error e⟩, List.mem_cons_self, rfl⟩⟩

/-- **One turn** keeps true what the loop tells. -/
theorem Sound.turn (h : Sound store c given l) : Sound store c given (l.turn store) := by
  cases hnext : l.next with
  | none =>
    have hstay : l.turn store = l := by rw [Loop.turn, hnext]
    rw [hstay]
    exact h
  | some action =>
    have hpending := h.pending action hnext
    generalize hupdate : l.component.list.update action = result
    have hreaction := l.component.list.reaction action
    rw [hupdate] at hreaction
    cases hreaction with
    | idle hturns hitems =>
      rw [turn_of_none store hnext hupdate]
      refine ⟨h.resource, h.received, fun _ hn => (nomatch hn), fun _ => hpending.told_of_none ?_ ?_⟩
      · rintro w reason rfl
        cases hturns
      · intro hne
        exact absurd (hitems.trans hpending.items) hne
    | write w hturns hitems =>
      rw [turn_of_write store hnext hupdate]
      refine ⟨h.resource, ?_, fun action' hn => ?_, fun hn => (nomatch hn)⟩
      · -- this is the first write, and the store is still as it was before the call
        have hreceived := h.received
        rw [hpending.first hturns] at hreceived
        obtain ⟨-, hstore⟩ := Prod.mk.inj hreceived
        show store.writeAll c.resource c.store
          ((l.writes ++ [w.attempt store l.component.resource l.component.store]).map (·.write.item)) = _
        rw [hpending.first hturns, h.resource, ← hstore]
        rfl
      · obtain rfl := Option.some.inj hn
        exact hpending.report hturns hitems
    | acknowledged w =>
      rw [turn_of_none store hnext hupdate]
      refine ⟨h.resource, h.received, fun _ hn => (nomatch hn), fun _ => hpending.told_of_none ?_ ?_⟩
      · intro w' reason he
        cases he
      · intro _
        exact ⟨w, hpending.taken w rfl, TodoList.items_acknowledge_congr hpending.items w⟩
    | rejected w reason =>
      rw [turn_of_alert store hnext hupdate]
      exact ⟨h.resource, h.received, fun _ hn => (nomatch hn), fun _ => hpending.told_rejected⟩

/-- **A whole run** keeps it true. -/
theorem Ends.sound (h : Ends store l k l') (hl : Sound store c given l) : Sound store c given l' := by
  induction h with
  | done _ => exact hl
  | turn _ _ ih => exact ih hl.turn

theorem Ends.next_eq_none (h : Ends store l k l') : l'.next = none := by
  induction h with
  | done hnext => exact hnext
  | turn _ _ ih => exact ih

end Loop

variable {σ : Type}

/-- **A dispatch stops, and tells the truth.**  Its loop is over after one or two transitions, in just what the
    call gives, whatever the list, the action and the store are.  The store has then got one write at most. -/
theorem dispatch_stops_and_tells (store : ItemStore σ) (c : Component σ) (action : Action) :
    ∃ k l, Loop.Ends store (Loop.start c action) k l ∧ 1 ≤ k ∧ k ≤ 2
      ∧ c.dispatch store action = l.settled
      ∧ l.component.resource = c.resource
      ∧ store.writeAll c.resource c.store (l.writes.map (·.write.item))
        = (l.writes.map Attempt.answer, l.component.store)
      ∧ Loop.Told c action l := by
  obtain ⟨k, l, hends, hle⟩ := Loop.exists_ends store (Loop.start c action)
  have hsound := hends.sound (Loop.sound_start store c action)
  refine ⟨k, l, hends, ?_, ?_, hends.settled_eq, hsound.resource, hsound.received, hsound.told hends.next_eq_none⟩
  · -- there is an action to begin with
    cases hends with
    | done hnext => cases hnext
    | turn _ _ => exact Nat.succ_pos _
  · have htwo : action.turns ≤ 2 := by
      cases action with
      | add raw => exact Nat.le_refl 2
      | toggle key => exact Nat.le_refl 2
      | acknowledged write => exact Nat.le_succ 1
      | rejected write reason => exact Nat.le_succ 1
    exact Nat.le_trans hle htwo

end Component

end TodoSite
