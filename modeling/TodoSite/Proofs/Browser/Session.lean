/-
  No outcome of a write is lost or taken twice.

  A session goes on by moves: frames, clicks and typing, and tasks that end in any order, with any replies
  from the network.  Between two frames several tasks may end.

      command ──▶ task ──▶ delivery ──▶ frame
      issued      pending  queued       applied

  1. **One move** — which calls of the state it comes to (`calls`), and which task it ends (`ended`), is read
     off the session before it.  This is all that it does (`makes_move`, `ends_settle`).

  2. **All moves** (`Ledger.run`) — the calls so far and the tasks that have ended so far account for everything
     that the session holds.

  3. **The writes** (`writes_accounted`) — every write that was issued is pending, queued or applied, and it
     is that in one place only.

  CRUX.  The ledger says of tasks that those which were begun are those that have ended and those that
  have not, and of deliveries that those which were left are those applied and those queued.  A task and
  what it leaves are about the same write, so the two balances join at the tasks that have ended.
-/
import Mathlib.Data.List.Perm.Basic
import TodoSite.Browser.Session
import TodoSite.Proofs.Browser.App

namespace TodoSite.Browser

open AppState (Call)

/-! ## Moves -/

namespace Session

/-- A frame alone, or another step without the frame after it.  A step that cannot be done changes nothing. -/
def move (s : Session) : Step → Session
  | .frame => { s with app := s.app.frame }
  | step => (s.act step).toOption.getD s

/-- A session after moves, one after the other. -/
def run (s : Session) (moves : List Step) : Session := moves.foldl move s

/-- A session that begins with `state`. -/
def opened (document : Document) (network : Network) (state : AppState) : Session :=
  { document, network, app := .start state }

theorem move_of_ne_frame {s : Session} {step : Step} (h : step ≠ .frame) :
    s.move step = (s.act step).toOption.getD s := by
  cases step with
  | frame => exact absurd rfl h
  | _ => rfl

/-- A step of a session is a move and a frame, and a report of what can be seen then. -/
theorem step_eq (s : Session) (step : Step) :
    s.step step = (s.act step).map fun _ => ((s.move step).move .frame).report := by
  by_cases h : step = .frame
  · -- nothing is queued after a frame, and another one does nothing
    have hagain : s.app.frame.frame = s.app.frame := by
      rw [App.frame, App.deliveries_frame]
      show { s.app.frame with deliveries := [] } = s.app.frame
      rw [← App.deliveries_frame s.app]
    rw [h]
    show Except.ok { s with app := s.app.frame }.report = Except.ok { s with app := s.app.frame.frame }.report
    rw [hagain]
  · rw [move_of_ne_frame h, Session.step]
    cases s.act step <;> rfl

/-- The calls of the state that a move comes to: a frame applies each delivery, and what a person does is one
    call, if it is anything. -/
def calls (s : Session) : Step → List Call
  | .frame => s.app.deliveries.map .handle
  | .settle _ => []
  | .toggle row => (s.app.state.view.rows[row]?).toList.map fun row => .dispatch (.toggle row.key)
  | .type text => [.type (if App.isTyped text then s.app.state.input ++ text else s.app.state.input)]
  | .add => [.submit]
  | .enter => if s.app.focused then [.submit] else []

/-- The task that a move ends, if there is one at that place. -/
def ended (s : Session) : Step → List Ended
  | .settle index => (s.app.tasks[index]?).toList.map (Task.ended s.app.state.resource s.network)
  | _ => []

/-- The calls of the state along moves. -/
def callsOf (s : Session) : List Step → List Call
  | [] => []
  | step :: moves => s.calls step ++ (s.move step).callsOf moves

/-- The tasks that end along moves. -/
def endedOf (s : Session) : List Step → List Ended
  | [] => []
  | step :: moves => s.ended step ++ (s.move step).endedOf moves

/-- What the end of a task makes of a session. -/
structure Ends (s s' : Session) (ended : Ended) : Prop where
  /-- The document is the same. -/
  document : s'.document = s.document
  /-- So is the state. -/
  state : s'.app.state = s.app.state
  /-- One task is gone. -/
  tasks : s.app.tasks.Perm (ended.task :: s'.app.tasks)
  /-- What it leaves comes last. -/
  deliveries : s'.app.deliveries = s.app.deliveries ++ ended.delivery.toList
  /-- It has ended as a task of its list. -/
  fits : ended.Fits s.app.state.resource
  /-- What it has sent comes last. -/
  sent : s'.network.sent = s.network.sent ++ ended.sent
  /-- Its alerts are shown where the document shows any. -/
  alerts : s'.alerts = s.alerts ++ s.document.shown ended.alerts

/-- The end of a task is one of its kind, and makes of the session what is said of it. -/
theorem ends_settle {s : Session} {index : Nat} {task : Task} (h : s.app.tasks[index]? = some task) :
    Ends s (s.move (.settle index)) (task.ended s.app.state.resource s.network) := by
  obtain ⟨after, hrun, hsent⟩ := task.run_eq s.app.state.resource s.network
  obtain ⟨hindex, hget⟩ := List.getElem?_eq_some_iff.mp h
  have hmove : s.move (.settle index) = { s with
      network := after
      app := { s.app with tasks := s.app.tasks.eraseIdx index }.deliver
        (task.ended s.app.state.resource s.network).delivery
      alerts := s.alerts ++ s.document.shown (task.ended s.app.state.resource s.network).alerts } := by
    show (s.act (.settle index)).toOption.getD s = _
    rw [act, settle?, App.takeTask?, h, Option.map_some, Option.map_some]
    dsimp only
    rw [hrun]
    rfl
  rw [hmove]
  constructor
  · rfl
  · rfl
  · rw [Task.task_ended, ← hget]
    exact (List.getElem_cons_eraseIdx_perm hindex).symm
  · rfl
  · exact task.fits_ended _ _
  · exact hsent
  · rfl

theorem move_settle_of_none {s : Session} {index : Nat} (h : s.app.tasks[index]? = none) :
    s.move (.settle index) = s := by
  show (s.act (.settle index)).toOption.getD s = s
  rw [act, settle?, App.takeTask?, h]
  rfl

/-- **A move that ends no task** calls the state. -/
theorem makes_move (s : Session) {step : Step} (h : ∀ index, step ≠ .settle index) :
    ∃ app, s.move step = { s with app } ∧ s.app.Makes app (s.calls step) := by
  cases step with
  | settle index => exact absurd rfl (h index)
  | frame => exact ⟨_, rfl, s.app.makes_frame⟩
  | type text => exact ⟨_, rfl, s.app.makes_type text⟩
  | add => exact ⟨_, rfl, s.app.makes_submit⟩
  | enter =>
    refine ⟨s.app.enter, rfl, ?_⟩
    rw [App.enter, calls]
    split
    · exact s.app.makes_submit
    · exact .nothing s.app
  | toggle row =>
    have hmove : s.move (.toggle row) = (s.act (.toggle row)).toOption.getD s := rfl
    rw [hmove, act, App.toggleRow?, calls]
    cases s.app.state.view.rows[row]? with
    | none => exact ⟨s.app, rfl, .nothing s.app⟩
    | some row => exact ⟨_, rfl, s.app.makes_toggle row.key⟩

end Session

/-! ## The ledger -/

/-- What has come of a session that began with `first`, by the calls of its state and the tasks that have
    ended. -/
structure Ledger (d : Document) (n : Network) (first : AppState) (s : Session)
    (calls : List Call) (ended : List Ended) : Prop where
  /-- The document is the same. -/
  document : s.document = d
  /-- The calls are those that the program makes. -/
  made : ∀ call ∈ calls, call.Made
  /-- The state has gone through the calls, each once and in order. -/
  state : s.app.state = first.run (.beginFetch :: calls)
  /-- There was one task for the model, if it was asked for, and one for each command.  They are those that
      have ended and those that have not. -/
  tasks : ((App.start first).tasks ++ (first.commands (.beginFetch :: calls)).map Task.command).Perm
    (ended.map Ended.task ++ s.app.tasks)
  /-- What was left was applied in the order in which it came, or is still queued. -/
  deliveries : ended.filterMap Ended.delivery = calls.filterMap Call.handled? ++ s.app.deliveries
  /-- Tasks have ended as tasks of this list do. -/
  fits : ∀ task ∈ ended, task.Fits first.resource
  /-- Nothing was sent but by tasks. -/
  sent : s.network.sent = n.sent ++ ended.flatMap Ended.sent
  /-- Nothing was shown but by tasks. -/
  alerts : s.alerts = d.shown (ended.flatMap Ended.alerts)

namespace Ledger

variable {d : Document} {n : Network} {first : AppState} {s s' : Session} {calls more : List Call}
  {ended : List Ended} {last : Ended}

theorem opened (d : Document) (n : Network) (first : AppState) :
    Ledger d n first (.opened d n first) [] [] := by
  have hnone : d.shown [] = [] := ite_self _
  exact {
    document := rfl
    made := fun _ h => absurd h List.not_mem_nil
    state := rfl
    tasks := List.Perm.of_eq (List.append_nil _)
    deliveries := rfl
    fits := fun _ h => absurd h List.not_mem_nil
    sent := (List.append_nil _).symm
    alerts := hnone.symm }

/-- Calls of the state go into the ledger. -/
theorem makes {app : App} (h : Ledger d n first s calls ended) (hmakes : s.app.Makes app more) :
    Ledger d n first { s with app } (calls ++ more) ended := by
  have hrun := first.run_append (.beginFetch :: calls) more
  have hcommands := first.commands_append (.beginFetch :: calls) more
  rw [← h.state, List.cons_append] at hrun hcommands
  constructor
  · exact h.document
  · exact fun call hcall => (List.mem_append.mp hcall).elim (h.made call) (hmakes.made call)
  · rw [hrun]
    exact hmakes.state
  · show List.Perm _ (ended.map Ended.task ++ app.tasks)
    rw [hcommands, hmakes.tasks, List.map_append, ← List.append_assoc, ← List.append_assoc]
    exact h.tasks.append_right _
  · rw [h.deliveries, hmakes.deliveries, List.filterMap_append, List.append_assoc]
  · exact h.fits
  · exact h.sent
  · exact h.alerts

/-- A task that ends goes into the ledger. -/
theorem ends (h : Ledger d n first s calls ended) (hends : s.Ends s' last) :
    Ledger d n first s' calls (ended ++ [last]) := by
  have hresource : s.app.state.resource = first.resource := by
    rw [h.state]
    exact first.resource_run (.beginFetch :: calls)
  constructor
  · rw [hends.document, h.document]
  · exact h.made
  · rw [hends.state, h.state]
  · have hended : (ended ++ [last]).map Ended.task ++ s'.app.tasks
        = ended.map Ended.task ++ last.task :: s'.app.tasks := by
      rw [List.map_append, List.append_assoc]
      rfl
    rw [hended]
    exact h.tasks.trans (hends.tasks.append_left _)
  · have hlast : [last].filterMap Ended.delivery = last.delivery.toList := by
      rw [List.filterMap_eq_flatMap_toList, List.flatMap_singleton]
    rw [List.filterMap_append, h.deliveries, hlast, hends.deliveries, List.append_assoc]
  · intro task htask
    rcases List.mem_append.mp htask with htask | htask
    · exact h.fits task htask
    · rw [List.mem_singleton.mp htask, ← hresource]
      exact hends.fits
  · rw [hends.sent, h.sent, List.flatMap_append, List.flatMap_singleton, List.append_assoc]
  · have hshown : ∀ shown more : List String,
        d.shown (shown ++ more) = d.shown shown ++ d.shown more := by
      intro shown more
      unfold Document.shown
      split <;> rfl
    rw [hends.alerts, h.alerts, h.document, List.flatMap_append, List.flatMap_singleton, hshown]

/-- **One move** goes into the ledger: its calls, or the task that it ends. -/
theorem move (h : Ledger d n first s calls ended) (step : Step) :
    Ledger d n first (s.move step) (calls ++ s.calls step) (ended ++ s.ended step) := by
  by_cases hsettle : ∃ index, step = .settle index
  · obtain ⟨index, rfl⟩ := hsettle
    rw [show s.calls (.settle index) = [] from rfl, List.append_nil, Session.ended]
    cases htask : s.app.tasks[index]? with
    | none =>
      rw [Session.move_settle_of_none htask, Option.toList_none, List.map_nil, List.append_nil]
      exact h
    | some task => exact h.ends (Session.ends_settle htask)
  · have hother : ∀ index, step ≠ .settle index := fun index he => hsettle ⟨index, he⟩
    have hnone : s.ended step = [] := by
      cases step with
      | settle index => exact absurd rfl (hother index)
      | _ => rfl
    obtain ⟨app, hmove, hmakes⟩ := s.makes_move hother
    rw [hmove, hnone, List.append_nil]
    exact h.makes hmakes

/-- **All moves** go into it, one after the other. -/
theorem run (h : Ledger d n first s calls ended) (moves : List Step) :
    Ledger d n first (s.run moves) (calls ++ s.callsOf moves) (ended ++ s.endedOf moves) := by
  induction moves generalizing s calls ended with
  | nil =>
    rw [Session.callsOf, Session.endedOf, List.append_nil, List.append_nil]
    exact h
  | cons step moves ih =>
    rw [Session.callsOf, Session.endedOf, ← List.append_assoc, ← List.append_assoc]
    exact ih (h.move step)

end Ledger

/-! ## The balances -/

namespace Ledger

variable {d : Document} {n : Network} {first : AppState} {s : Session} {calls : List Call} {ended : List Ended}

/-- What is told of the commands is told of the tasks, those that have ended and those that have not. -/
theorem balance {α : Type} {f : Task → Option α} (h : Ledger d n first s calls ended) (hfetch : f .fetch = none) :
    ((first.commands (.beginFetch :: calls)).filterMap fun command => f (.command command)).Perm
      ((ended.map Ended.task).filterMap f ++ s.app.tasks.filterMap f) := by
  have hstart : (App.start first).tasks.filterMap f = [] := by
    show (if first.beginFetch.1 then [Task.fetch] else []).filterMap f = []
    split
    · exact List.filterMap_cons_none hfetch
    · rfl
  have hbalance := h.tasks.filterMap f
  rw [List.filterMap_append, hstart, List.nil_append, List.filterMap_map, List.filterMap_append] at hbalance
  exact hbalance

/-- **Every write is applied, queued or pending**, and as often as it was issued. -/
theorem writes (h : Ledger d n first s calls ended) :
    ((first.commands (.beginFetch :: calls)).filterMap Command.write?).Perm
      ((calls.filterMap Call.handled?).filterMap Delivery.answered?
        ++ s.app.deliveries.filterMap Delivery.answered? ++ s.app.tasks.filterMap Task.write?) := by
  have hended : (ended.map Ended.task).filterMap Task.write?
      = (ended.filterMap Ended.delivery).filterMap Delivery.answered? := by
    rw [List.filterMap_map, List.filterMap_filterMap]
    exact List.filterMap_congr fun task htask => (h.fits task htask).answered
  have hbalance := h.balance (f := Task.write?) rfl
  rw [hended, h.deliveries, List.filterMap_append] at hbalance
  exact hbalance

/-- The alerts that were asked for are those of the refusals that were applied. -/
theorem alerts_asked (h : Ledger d n first s calls ended) :
    (first.commands (.beginFetch :: calls)).filterMap Command.alert?
      = (calls.filterMap Call.handled?).filterMap Delivery.refusal? := by
  rw [AppState.commands_beginFetch]
  exact AppState.alerts_commands h.made

/-- **Every refusal that was applied is told once**: its alert has been raised, or is pending. -/
theorem refusals (h : Ledger d n first s calls ended) :
    ((calls.filterMap Call.handled?).filterMap Delivery.refusal?).Perm
      (ended.flatMap Ended.alerts ++ s.app.tasks.filterMap Task.alert?) := by
  have hended : (ended.map Ended.task).filterMap Task.alert? = ended.flatMap Ended.alerts := by
    rw [List.filterMap_eq_flatMap_toList, List.flatMap_map]
    exact List.flatMap_congr fun task htask => (h.fits task htask).raised
  rw [← h.alerts_asked, ← hended]
  exact h.balance (f := Task.alert?) rfl

end Ledger

/-- **No outcome is lost or taken twice.**  At any moment of any session, the calls that its moves have come to
    and the tasks that they have ended account for all that it holds.  Every write that was issued has been
    applied, is queued or is pending, in one place only, and nothing else was ever applied.  The alerts
    that were asked for are those of the refusals that were applied, in their order; each has been raised
    or is pending.  A frame leaves nothing queued; and a step of the session is a move and a frame. -/
theorem Session.writes_accounted (document : Document) (network : Network) (state : AppState)
    (moves : List Step) :
    let first := opened document network state
    let s := first.run moves
    let calls := first.callsOf moves
    let ended := first.endedOf moves
    Ledger document network state s calls ended
      ∧ ((state.commands (.beginFetch :: calls)).filterMap Command.write?).Perm
          ((calls.filterMap Call.handled?).filterMap Delivery.answered?
            ++ s.app.deliveries.filterMap Delivery.answered? ++ s.app.tasks.filterMap Task.write?)
      ∧ (state.commands (.beginFetch :: calls)).filterMap Command.alert?
          = (calls.filterMap Call.handled?).filterMap Delivery.refusal?
      ∧ ((calls.filterMap Call.handled?).filterMap Delivery.refusal?).Perm
          (ended.flatMap Ended.alerts ++ s.app.tasks.filterMap Task.alert?)
      ∧ (s.move .frame).app.deliveries = []
      ∧ ∀ step, s.step step = (s.act step).map fun _ => ((s.move step).move .frame).report := by
  intro first s calls ended
  have h : Ledger document network state s calls ended := (Ledger.opened document network state).run moves
  exact ⟨h, h.writes, h.alerts_asked, h.refusals, s.app.deliveries_frame, s.step_eq⟩

/-- Two writes end in the other order, and the one that was issued first is refused. -/
example :
    let milk : Item := { name := "Milk", key := "1" }
    let first := AppState.ofModel "/l" { title := "L", items := [milk, { name := "Tea", key := "2" }] }
    let replies := [Reply.answered 200 "", .answered 500 ""]
    let s := (Session.opened {} { prepared := replies } first).run [.toggle 0, .toggle 1, .settle 1, .settle 0]
    s.app.tasks = [] ∧ s.app.deliveries.filterMap Delivery.answered?
        = [.toggle { name := "Tea", done := true, key := "2" }, .toggle { milk with done := true }]
      ∧ (s.move .frame).app.tasks = [.command (.alert "Could not update \"Milk\": HTTP 500")]
      ∧ (s.move .frame).app.deliveries.filterMap Delivery.answered? = [] := by
  decide +kernel

end TodoSite.Browser
