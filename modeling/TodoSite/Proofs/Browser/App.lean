/-
  What the page's program does with its state and its tasks.

  1. **Calls** (`Makes`) — a frame, a click and some typing come to calls of the state.  Each command that
     these ask for becomes a task, and a frame makes a call of each delivery (`makes_frame`).

  2. **Tasks** (`Task.run_eq`) — a task that ends has sent at most one request.  It leaves what the reply
     says of the model or of its write; an alert is raised and leaves nothing (`Task.ended`).

  CRUX.  Nothing but a delivery brings an answer into the list: a person only asks for writes.
-/
import TodoSite.Browser.App
import TodoSite.Client
import TodoSite.Proofs.AppState.Run
import TodoSite.Proofs.Component

namespace TodoSite

/-! ## Requests -/

/-- What goes out of a request with this reply: the request, unless it could not be made. -/
def Reply.carried (request : Outgoing) : Reply → List Outgoing
  | .unmade _ => []
  | .answered _ _ | .failed _ => [request]

theorem Network.sent_send (n : Network) (request : Outgoing) :
    (n.send request).2.sent = n.sent ++ (n.send request).1.carried request := by
  unfold Network.send
  split
  · exact (List.append_nil _).symm
  · rename_i reply prepared hmade hprepared
    cases reply with
    | unmade message => exact (hmade message rfl).elim
    | answered status body => rfl
    | failed message => rfl
  · -- the server gets the request, whatever it makes of it
    rename_i r hprepared hserver
    have hcarried : (askServer r request).1.carried request = [request] := by
      unfold askServer
      dsimp only
      split <;> rfl
    show n.sent ++ [request] = n.sent ++ (askServer r request).1.carried request
    rw [hcarried]
  · rfl

/-! ## What is on its way -/

/-- The write that a command asks for. -/
def Command.write? : Command → Option PendingWrite
  | .write w => some w
  | .alert _ => none

/-- The alert that a command asks for. -/
def Command.alert? : Command → Option String
  | .write _ => none
  | .alert message => some message

/-- The write that a delivery answers. -/
def Delivery.answered? : Delivery → Option PendingWrite
  | .action (.acknowledged w) | .action (.rejected w _) => some w
  | _ => none

/-- What a person is told of a delivery: of a write that was refused. -/
def Delivery.refusal? : Delivery → Option String
  | .action (.rejected w reason) => some (w.refusal reason)
  | _ => none

namespace Browser

/-- The write that a task is about. -/
def Task.write? : Task → Option PendingWrite
  | .fetch => none
  | .command c => c.write?

/-- The alert that a task is about. -/
def Task.alert? : Task → Option String
  | .fetch => none
  | .command c => c.alert?

end Browser

namespace AppState

/-- The delivery that a call applies. -/
def Call.handled? : Call → Option Delivery
  | .handle delivery => some delivery
  | _ => none

/-- The calls that the program makes.  What it applies to the list is what a person asks for, or has been
    delivered. -/
inductive Call.Made : Call → Prop where
  /-- A text is typed. -/
  | type (text : String) : Made (.type text)
  /-- The field is submitted. -/
  | submit : Made .submit
  /-- The link of a row is clicked. -/
  | toggle (key : String) : Made (.dispatch (.toggle key))
  /-- A delivery is applied. -/
  | handle (delivery : Delivery) : Made (.handle delivery)

/-- What calls ask for, one after the other. -/
def commands (s : AppState) : List Call → List Command
  | [] => []
  | call :: calls => (s.call call).2.toList ++ commands (s.call call).1 calls

variable {s : AppState} {call : Call} {calls : List Call}

theorem commands_append (s : AppState) (calls more : List Call) :
    s.commands (calls ++ more) = s.commands calls ++ (s.run calls).commands more := by
  induction calls generalizing s with
  | nil => rfl
  | cons call calls ih =>
    rw [List.cons_append, commands, ih, commands, List.append_assoc]
    rfl

theorem commands_beginFetch (s : AppState) (calls : List Call) :
    s.commands (.beginFetch :: calls) = s.beginFetch.2.commands calls := rfl

theorem resource_call (s : AppState) (call : Call) : (s.call call).1.resource = s.resource := by
  cases call with
  | handle delivery =>
    cases delivery with
    | model result => exact resource_finishFetch s result
    | action action => rfl
  | submit => rw [call, submit, dispatch]
  | _ => rfl

theorem resource_run (s : AppState) (calls : List Call) : (s.run calls).resource = s.resource := by
  induction calls generalizing s with
  | nil => rfl
  | cons call calls ih => exact (ih _).trans (resource_call s call)

/-- Applying an action asks for an alert just if the action is a refusal. -/
theorem alert?_dispatch (s : AppState) (action : Action) :
    (s.dispatch action).2.bind Command.alert? = (Delivery.action action).refusal? := by
  show (s.list.update action).2.bind Command.alert? = _
  cases action with
  | add raw =>
    rw [TodoList.update]
    split <;> rfl
  | toggle key =>
    rw [TodoList.update]
    split <;> rfl
  | acknowledged write => rfl
  | rejected write reason => rfl

theorem alert?_call (hcall : call.Made) :
    (s.call call).2.bind Command.alert? = call.handled?.bind Delivery.refusal? := by
  cases hcall with
  | type text => rfl
  | submit => exact alert?_dispatch { s with input := "" } (.add s.input)
  | toggle key => exact alert?_dispatch s (.toggle key)
  | handle delivery =>
    cases delivery with
    | model result => rfl
    | action action => exact alert?_dispatch s action

/-- **Alerts are asked for as refusals are applied**, one for each and in their order. -/
theorem alerts_commands (hcalls : ∀ call ∈ calls, call.Made) :
    (s.commands calls).filterMap Command.alert?
      = (calls.filterMap Call.handled?).filterMap Delivery.refusal? := by
  induction calls generalizing s with
  | nil => rfl
  | cons call calls ih =>
    obtain ⟨hcall, hcalls⟩ := List.forall_mem_cons.mp hcalls
    have hhead : (s.call call).2.toList.filterMap Command.alert?
        = (call.handled?.bind Delivery.refusal?).toList := by
      rw [← alert?_call hcall]
      cases (s.call call).2 with
      | none => rfl
      | some command => cases command <;> rfl
    rw [commands, List.filterMap_append, ih hcalls, hhead, List.filterMap_filterMap, List.filterMap_filterMap,
      List.filterMap_cons]
    cases call.handled?.bind Delivery.refusal? <;> rfl

end AppState

namespace Browser

open AppState (Call)

/-! ## Calls of the state -/

namespace App

/-- What calls of the state make of a program. -/
structure Makes (app app' : App) (calls : List Call) : Prop where
  /-- They are calls that the program makes. -/
  made : ∀ call ∈ calls, call.Made
  /-- They are applied to the state, one after the other. -/
  state : app'.state = app.state.run calls
  /-- Each command that they ask for is one more task. -/
  tasks : app'.tasks = app.tasks ++ (app.state.commands calls).map .command
  /-- The deliveries that they apply are the first ones, and are gone. -/
  deliveries : app.deliveries = calls.filterMap Call.handled? ++ app'.deliveries

@[simp]
theorem state_spawn (app : App) (command : Option Command) : (app.spawn command).state = app.state := by
  cases command <;> rfl

@[simp]
theorem tasks_spawn (app : App) (command : Option Command) :
    (app.spawn command).tasks = app.tasks ++ command.toList.map .command := by
  cases command with
  | none => exact (List.append_nil _).symm
  | some command => rfl

@[simp]
theorem deliveries_spawn (app : App) (command : Option Command) :
    (app.spawn command).deliveries = app.deliveries := by
  cases command <;> rfl

theorem Makes.nothing (app : App) : Makes app app [] :=
  ⟨fun _ h => absurd h List.not_mem_nil, rfl, (List.append_nil _).symm, rfl⟩

/-- One call that applies no delivery. -/
theorem Makes.single (app : App) (focused : Bool) (call : Call) (hmade : call.Made) (hhandled : call.handled? = none) :
    Makes app ({ app with state := (app.state.call call).1, focused }.spawn (app.state.call call).2) [call] := by
  constructor
  · exact List.forall_mem_singleton.mpr hmade
  · exact state_spawn _ _
  · rw [tasks_spawn, AppState.commands, AppState.commands, List.append_nil]
  · rw [deliveries_spawn, List.filterMap_cons_none hhandled]
    rfl

theorem makes_type (app : App) (text : String) :
    Makes app (app.type text)
      [.type (if isTyped text then app.state.input ++ text else app.state.input)] := by
  unfold type
  exact .single app true (.type _) (.type _) rfl

theorem makes_submit (app : App) : Makes app app.submit [.submit] := by
  have hsubmit : app.submit
      = { app with state := (app.state.call .submit).1, focused := false }.spawn (app.state.call .submit).2 := by
    rw [submit, AppState.call]
  rw [hsubmit]
  exact .single app false .submit .submit rfl

theorem makes_toggle (app : App) (key : String) :
    Makes app (app.dispatch (.toggle key)) [.dispatch (.toggle key)] := by
  have hdispatch : app.dispatch (.toggle key)
      = { app with state := (app.state.call (.dispatch (.toggle key))).1, focused := false }.spawn
          (app.state.call (.dispatch (.toggle key))).2 := by
    rw [dispatch, AppState.call]
  rw [hdispatch]
  exact .single app false (.dispatch (.toggle key)) (.toggle key) rfl

/-- Deliveries that are applied one after the other. -/
theorem foldl_receive (app : App) (deliveries : List Delivery) :
    (deliveries.foldl receive app).state = app.state.run (deliveries.map .handle)
      ∧ (deliveries.foldl receive app).tasks
        = app.tasks ++ (app.state.commands (deliveries.map .handle)).map .command
      ∧ (deliveries.foldl receive app).deliveries = app.deliveries := by
  induction deliveries generalizing app with
  | nil => exact ⟨rfl, (List.append_nil _).symm, rfl⟩
  | cons delivery deliveries ih =>
    have hreceive : app.receive delivery
        = { app with state := (app.state.call (.handle delivery)).1 }.spawn (app.state.call (.handle delivery)).2 :=
      rfl
    obtain ⟨hstate, htasks, hdeliveries⟩ := ih (app.receive delivery)
    rw [hreceive, state_spawn] at hstate
    rw [hreceive, state_spawn, tasks_spawn, List.append_assoc, ← List.map_append] at htasks
    rw [hreceive, deliveries_spawn] at hdeliveries
    exact ⟨hstate, htasks, hdeliveries⟩

/-- **A frame applies each delivery once**, in the order in which they came. -/
theorem makes_frame (app : App) : Makes app app.frame (app.deliveries.map .handle) := by
  obtain ⟨hstate, htasks, hdeliveries⟩ := foldl_receive { app with deliveries := [] } app.deliveries
  constructor
  · intro call hcall
    obtain ⟨delivery, -, rfl⟩ := List.mem_map.mp hcall
    exact .handle delivery
  · exact hstate
  · exact htasks
  · have hhandled : (app.deliveries.map Call.handle).filterMap Call.handled? = app.deliveries := by
      rw [List.filterMap_map]
      exact List.filterMap_some
    rw [hhandled]
    exact (congrArg (app.deliveries ++ ·) hdeliveries).symm ▸ (List.append_nil _).symm

theorem deliveries_frame (app : App) : app.frame.deliveries = [] :=
  (foldl_receive { app with deliveries := [] } app.deliveries).2.2

end App

/-! ## The end of a task -/

/-- A task that has run to its end. -/
structure Ended where
  /-- The task. -/
  task : Task
  /-- What it has left. -/
  delivery : Option Delivery
  /-- The requests that it has sent. -/
  sent : List Outgoing
  /-- The alerts that it has raised. -/
  alerts : List String

/-- What a task for the list at `resource` has come to, once it has run to its end on the network `n`: a
    request is sent once, and what it leaves is made of the reply. -/
def Task.ended (resource : String) (n : Network) : Task → Ended
  | .fetch =>
    let request := Client.fetchRequest resource
    let reply := (n.send request).1
    ⟨.fetch, some (.model (Client.fetched reply)), reply.carried request, []⟩
  | .command (.write w) =>
    let request := Client.writeRequest resource w.item
    let reply := (n.send request).1
    ⟨.command (.write w), some (.action (Attempt.report ⟨w, Client.written reply⟩)), reply.carried request, []⟩
  | .command (.alert message) => ⟨.command (.alert message), none, [], [message]⟩

/-- How tasks for the list at `resource` end, whatever becomes of their requests. -/
inductive Ended.Fits (resource : String) : Ended → Prop where
  /-- A fetch sends one request and leaves the model, or why there is none. -/
  | fetch (reply : Reply) :
    Fits resource ⟨.fetch, some (.model (Client.fetched reply)), reply.carried (Client.fetchRequest resource), []⟩
  /-- A write sends one request and leaves the answer to this write. -/
  | write (w : PendingWrite) (reply : Reply) :
    Fits resource
      ⟨.command (.write w), some (.action (Attempt.report ⟨w, Client.written reply⟩)),
        reply.carried (Client.writeRequest resource w.item), []⟩
  /-- An alert is raised and leaves nothing. -/
  | alert (message : String) : Fits resource ⟨.command (.alert message), none, [], [message]⟩

/-- What a task leaves answers the write that it is about. -/
theorem Ended.Fits.answered {resource : String} {ended : Ended} (h : ended.Fits resource) :
    ended.task.write? = ended.delivery.bind Delivery.answered? := by
  cases h with
  | fetch reply => rfl
  | alert message => rfl
  | write w reply =>
    cases Client.written reply <;> rfl

/-- A task raises the alert that it is about and no other. -/
theorem Ended.Fits.raised {resource : String} {ended : Ended} (h : ended.Fits resource) :
    ended.task.alert?.toList = ended.alerts := by
  cases h <;> rfl

theorem Task.task_ended (resource : String) (n : Network) (task : Task) :
    (task.ended resource n).task = task := by
  cases task with
  | fetch => rfl
  | command command => cases command <;> rfl

theorem Task.fits_ended (resource : String) (n : Network) (task : Task) : (task.ended resource n).Fits resource := by
  cases task with
  | fetch => exact .fetch _
  | command command =>
    cases command with
    | write w => exact .write w _
    | alert message => exact .alert message

/-- **A task ends with what its one request has come to.** -/
theorem Task.run_eq (resource : String) (n : Network) (task : Task) :
    ∃ after : Network, task.run Client.store resource n
        = ((task.ended resource n).delivery, (task.ended resource n).alerts, after)
      ∧ after.sent = n.sent ++ (task.ended resource n).sent := by
  cases task with
  | fetch => exact ⟨_, rfl, Network.sent_send _ _⟩
  | command command =>
    cases command with
    | write w =>
      refine ⟨(n.send (Client.writeRequest resource w.item)).2, ?_, Network.sent_send _ _⟩
      rw [Task.run, Command.run_write]
      rfl
    | alert message => exact ⟨n, rfl, (List.append_nil _).symm⟩

end Browser

end TodoSite
