/-
  One page, one server, and what is on its way between them.

      page ── writes ──▶ server ── answers, models ──▶ page
           ── fetches ─▶        └─ refusals ─────────▶

  The server takes the writes and the fetches on their way in any order, or they are lost; what comes
  back is applied in any order too, but for the answers to writes, which arrive in the order in which
  the server took them.  Nobody else writes.

  `step` is one event, and an event that is not possible changes nothing.  What a step can do is said
  once, by `Moves`; everything that holds along a run is proved by cases on it.
-/
import TodoSite.Proofs.AppState
import TodoSite.Proofs.TodoList

namespace TodoSite

/-- What has happened so far; neither side keeps it. -/
structure History where
  /-- The writes that the page has asked for. -/
  issued : List PendingWrite := []
  /-- Those of them that it has asked for without having its model. -/
  early : List PendingWrite := []
  /-- The writes that the server has taken, in its order. -/
  taken : List PendingWrite := []
  /-- The writes whose answers the page has got, in the same order. -/
  acknowledged : List PendingWrite := []
  /-- The writes that the server had taken when it exported the list. -/
  inModel : List PendingWrite := []
  /-- The writes whose answers the page had got when the outcome of a fetch came in. -/
  beforeModel : List PendingWrite := []
  deriving DecidableEq, Repr

/-- A page and a server. -/
structure Exchange where
  /-- The state of the page. -/
  client : AppState
  /-- The repository of the server. -/
  server : Repository
  /-- The writes that the server has not got yet. -/
  writes : List PendingWrite := []
  /-- The writes that it has taken, on the way back; the oldest first. -/
  answers : List PendingWrite := []
  /-- The writes that have failed, on the way back, each with the reason. -/
  refusals : List (PendingWrite × String) := []
  /-- How many fetches the server has not got yet. -/
  fetches : Nat := 0
  /-- The outcomes of fetches, on the way back. -/
  models : List (Except RemoteError Model) := []
  /-- What has happened so far. -/
  history : History := {}

/-- What can happen next. -/
inductive Event where
  /-- A text is submitted on the page. -/
  | add (raw : String)
  /-- The flag of the item with this key is to be turned. -/
  | toggle (key : String)
  /-- The server gets the write number `i`. -/
  | take (i : Nat)
  /-- The write number `i` fails before the server gets it. -/
  | lose (i : Nat) (reason : String)
  /-- The oldest answer comes in. -/
  | acknowledge
  /-- The refusal number `i` comes in. -/
  | reject (i : Nat)
  /-- The page asks for its model. -/
  | fetch
  /-- The server gets a fetch. -/
  | answer
  /-- A fetch fails. -/
  | loseFetch (error : RemoteError)
  /-- The outcome number `i` of a fetch comes in. -/
  | deliver (i : Nat)
  deriving DecidableEq, Repr

namespace Exchange

/-! ## One step -/

/-- Whether the page has its model. -/
def hasModel (x : Exchange) : Bool := x.client.hydration.model?.isSome

/-- A write sets out. -/
def issue (x : Exchange) (write : PendingWrite) : Exchange :=
  { x with
    writes := x.writes ++ [write]
    history := { x.history with
      issued := x.history.issued ++ [write]
      early := if x.hasModel then x.history.early else x.history.early ++ [write] } }

/-- Does what the page asks for; an alert is seen and gone. -/
def obey (x : Exchange) : Option Command → Exchange
  | some (.write write) => x.issue write
  | some (.alert _) => x
  | none => x

/-- A person acts on the page. -/
def act (x : Exchange) (action : Action) : Exchange :=
  let (client, command) := x.client.dispatch action
  { x with client }.obey command

/-- Something comes in at the page. -/
def receive (x : Exchange) (delivery : Delivery) : Exchange :=
  let (client, command) := x.client.handle delivery
  { x with client }.obey command

/-- What the server answers to a fetch. -/
def exported (x : Exchange) : Except RemoteError Model :=
  (x.server.model x.client.resource).mapError fun _ => .status 404

/-- The write number `i`, which is `write`, has been taken and has led to `server`. -/
def accept (x : Exchange) (i : Nat) (write : PendingWrite) (server : Repository) : Exchange :=
  { x with
    server
    writes := x.writes.eraseIdx i
    answers := x.answers ++ [write]
    history := { x.history with taken := x.history.taken ++ [write] } }

/-- The server gets the write number `i`, which is `write`. -/
def takeWrite (x : Exchange) (i : Nat) (write : PendingWrite) : Exchange :=
  match x.server.post x.client.resource write.item with
  | (.ok _, server) => x.accept i write server
  | (.error _, server) =>
    { x with
      server
      writes := x.writes.eraseIdx i
      refusals := x.refusals ++ [(write, (RemoteError.status 400).message)] }

/-- The exchange after an event. -/
def step (x : Exchange) : Event → Exchange
  | .add raw => x.act (.add raw)
  | .toggle key => x.act (.toggle key)
  | .take i =>
    match x.writes[i]? with
    | none => x
    | some write => x.takeWrite i write
  | .lose i reason =>
    match x.writes[i]? with
    | none => x
    | some write =>
      { x with writes := x.writes.eraseIdx i, refusals := x.refusals ++ [(write, reason)] }
  | .acknowledge =>
    match x.answers with
    | [] => x
    | write :: answers =>
      { x.receive (.action (.acknowledged write)) with
        answers
        history := { x.history with acknowledged := x.history.acknowledged ++ [write] } }
  | .reject i =>
    match x.refusals[i]? with
    | none => x
    | some (write, reason) =>
      { x.receive (.action (.rejected write reason)) with refusals := x.refusals.eraseIdx i }
  | .fetch =>
    let (started, client) := x.client.beginFetch
    { x with client, fetches := if started then x.fetches + 1 else x.fetches }
  | .answer =>
    match x.fetches with
    | 0 => x
    | fetches + 1 =>
      { x with
        fetches
        models := x.models ++ [x.exported]
        history := { x.history with inModel := x.history.taken } }
  | .loseFetch error =>
    match x.fetches with
    | 0 => x
    | fetches + 1 => { x with fetches, models := x.models ++ [.error error] }
  | .deliver i =>
    match x.models[i]? with
    | none => x
    | some result =>
      { x.receive (.model result) with
        models := x.models.eraseIdx i
        history := { x.history with beforeModel := x.history.acknowledged } }

/-- The exchange after events, one after the other. -/
def run (x : Exchange) (events : List Event) : Exchange := events.foldl step x

/-- Nothing is on its way, in either direction. -/
def Quiet (x : Exchange) : Prop :=
  x.writes = [] ∧ x.answers = [] ∧ x.refusals = [] ∧ x.fetches = 0 ∧ x.models = []

/-- The keys that the page shows. -/
def shownKeys (x : Exchange) : List String := x.client.list.items.map Item.key

/-- The number of the next key. -/
def nextNumber (x : Exchange) : Nat := x.client.list.keys.number x.shownKeys

/-- The page with its list changed by `f`. -/
def mapList (x : Exchange) (f : TodoList → TodoList) : Exchange :=
  { x with client := { x.client with list := f x.client.list } }

/-! ## What a step can do -/

/-- **What a step can do**: nothing, or what is said here. -/
inductive Moves (x : Exchange) : Event → Exchange → Prop where
  /-- The event is not possible, or asks for nothing. -/
  | idle (e : Event) : Moves x e x
  /-- A new item is asked for, under a key not given out before. -/
  | add {raw : String} (hname : Text.trim raw ≠ "") :
    Moves x (.add raw)
      ((x.mapList fun list => { list with keys := ⟨x.nextNumber + 1⟩ }).issue
        (.add { name := Text.trim raw, key := KeySequence.key x.nextNumber }))
  /-- An item that is shown is to be turned. -/
  | toggle {key : String} {item : Item} (hitem : x.client.list.get? key = some item) :
    Moves x (.toggle key) (x.issue (.toggle { item with done := !item.done }))
  /-- The server takes a write. -/
  | take {i : Nat} {write : PendingWrite} {upsert : Repository.Upsert} {server : Repository}
    (hwrite : x.writes[i]? = some write)
    (hpost : x.server.post x.client.resource write.item = (.ok upsert, server)) :
    Moves x (.take i) (x.accept i write server)
  /-- The server refuses a write. -/
  | refuse {i : Nat} {write : PendingWrite} {error : RepositoryError} {server : Repository}
    (hwrite : x.writes[i]? = some write)
    (hpost : x.server.post x.client.resource write.item = (.error error, server)) :
    Moves x (.take i)
      { x with
        server
        writes := x.writes.eraseIdx i
        refusals := x.refusals ++ [(write, (RemoteError.status 400).message)] }
  /-- A write is lost. -/
  | lose {i : Nat} {reason : String} {write : PendingWrite} (hwrite : x.writes[i]? = some write) :
    Moves x (.lose i reason)
      { x with writes := x.writes.eraseIdx i, refusals := x.refusals ++ [(write, reason)] }
  /-- The answer to a write comes in. -/
  | acknowledge {write : PendingWrite} {answers : List PendingWrite}
    (hanswers : x.answers = write :: answers) :
    Moves x .acknowledge
      { x.mapList (·.acknowledge write) with
        answers
        history := { x.history with acknowledged := x.history.acknowledged ++ [write] } }
  /-- A refusal comes in; the list stays as it is. -/
  | reject (i : Nat) : Moves x (.reject i) { x with refusals := x.refusals.eraseIdx i }
  /-- A page without its model asks for it. -/
  | fetch (hwaits : x.client.hydration.begin = .loading) :
    Moves x .fetch
      { x with client := { x.client with hydration := .loading }, fetches := x.fetches + 1 }
  /-- The server exports the list. -/
  | answer {fetches : Nat} (hfetches : x.fetches = fetches + 1) :
    Moves x .answer
      { x with
        fetches
        models := x.models ++ [x.exported]
        history := { x.history with inModel := x.history.taken } }
  /-- A fetch is lost. -/
  | loseFetch {error : RemoteError} {fetches : Nat} (hfetches : x.fetches = fetches + 1) :
    Moves x (.loseFetch error) { x with fetches, models := x.models ++ [.error error] }
  /-- The outcome of a fetch comes in. -/
  | deliver {i : Nat} {result : Except RemoteError Model} (hresult : x.models[i]? = some result) :
    Moves x (.deliver i)
      { x with
        client := x.client.finishFetch result
        models := x.models.eraseIdx i
        history := { x.history with beforeModel := x.history.acknowledged } }

theorem moves_add (x : Exchange) (raw : String) : Moves x (.add raw) (x.step (.add raw)) := by
  unfold step act AppState.dispatch TodoList.update
  dsimp only
  by_cases h : Text.trim raw = ""
  · rw [if_pos h]
    exact .idle _
  · rw [if_neg h]
    exact .add h

theorem moves_toggle (x : Exchange) (key : String) : Moves x (.toggle key) (x.step (.toggle key)) := by
  unfold step act AppState.dispatch TodoList.update
  dsimp only
  split
  · exact .idle _
  · rename_i item hitem
    exact .toggle hitem

theorem moves_take (x : Exchange) (i : Nat) : Moves x (.take i) (x.step (.take i)) := by
  unfold step
  dsimp only
  split
  · exact .idle _
  · rename_i write hwrite
    unfold takeWrite
    split
    · rename_i hpost
      exact .take hwrite hpost
    · rename_i hpost
      exact .refuse hwrite hpost

theorem moves_fetch (x : Exchange) : Moves x .fetch (x.step .fetch) := by
  unfold step AppState.beginFetch
  dsimp only
  cases h : x.client.hydration.begin with
  | loading => exact .fetch h
  | unhydrated =>
    cases hx : x.client.hydration with
    | unhydrated => rw [hx] at h; cases h
    | loading => rw [hx] at h; cases h
    | hydrated m => rw [hx] at h; cases h
  | hydrated model =>
    have hsame : x.client.hydration = .hydrated model := by
      cases hx : x.client.hydration with
      | unhydrated => rw [hx] at h; cases h
      | loading => rw [hx] at h; cases h
      | hydrated m => rw [hx] at h; exact h
    -- asked again, a page with its model stays as it is
    have hidle : ({ x with client := { x.client with hydration := .hydrated model } } : Exchange) = x := by
      rw [← hsame]
    show Moves x .fetch { x with client := { x.client with hydration := .hydrated model } }
    rw [hidle]
    exact .idle _

/-- Every step is one of the moves. -/
theorem moves_step (x : Exchange) (e : Event) : Moves x e (x.step e) := by
  cases e with
  | add raw => exact moves_add x raw
  | toggle key => exact moves_toggle x key
  | take i => exact moves_take x i
  | fetch => exact moves_fetch x
  | lose i reason =>
    unfold step
    dsimp only
    split
    · exact .idle _
    · rename_i hwrite
      exact .lose hwrite
  | acknowledge =>
    unfold step
    dsimp only
    split
    · exact .idle _
    · rename_i hanswers
      exact .acknowledge hanswers
  | reject i =>
    unfold step
    dsimp only
    split
    · exact .idle _
    · exact .reject i
  | answer =>
    unfold step
    dsimp only
    split
    · exact .idle _
    · rename_i hfetches
      exact .answer hfetches
  | loseFetch error =>
    unfold step
    dsimp only
    split
    · exact .idle _
    · rename_i hfetches
      exact .loseFetch hfetches
  | deliver i =>
    unfold step
    dsimp only
    split
    · exact .idle _
    · rename_i hresult
      exact .deliver hresult

/-! ## Models -/

theorem hasModel_eq_true {x : Exchange} : x.hasModel = true ↔ ∃ m, x.client.hydration = .hydrated m := by
  unfold hasModel
  cases x.client.hydration with
  | hydrated m => exact ⟨fun _ => ⟨m, rfl⟩, fun _ => rfl⟩
  | unhydrated => exact ⟨fun h => (by cases h), fun ⟨_, h⟩ => (by cases h)⟩
  | loading => exact ⟨fun h => (by cases h), fun ⟨_, h⟩ => (by cases h)⟩

/-- The server answers with the model that it exports. -/
theorem model_of_exported {x : Exchange} {m : Model} (h : x.exported = .ok m) :
    x.server.model x.client.resource = .ok m := by
  unfold exported at h
  cases hmodel : x.server.model x.client.resource with
  | ok model =>
    rw [hmodel] at h
    exact congrArg Except.ok (Except.ok.inj h)
  | error e =>
    rw [hmodel] at h
    cases h

/-! ## What no step touches -/

theorem resource_moves {x x' : Exchange} {e : Event} (hmove : Moves x e x') :
    x'.client.resource = x.client.resource := by
  cases hmove with
  | deliver hresult => exact AppState.resource_finishFetch _ _
  | _ => rfl

/-- What has been asked for stays on record. -/
theorem issued_subset_moves {x x' : Exchange} {e : Event} (hmove : Moves x e x') :
    x.history.issued ⊆ x'.history.issued := by
  cases hmove with
  | add hname => exact List.subset_append_left _ _
  | toggle hitem => exact List.subset_append_left _ _
  | _ => exact List.Subset.refl _

/-- The server loses no node. -/
theorem contains_moves {x x' : Exchange} {e : Event} {p : Path} (h : x.server.contains p = true)
    (hmove : Moves x e x') : x'.server.contains p = true := by
  cases hmove with
  -- a write adds nodes, also where it is refused
  | @take i write _ _ hwrite hpost =>
    have hserver := Repository.contains_post x.client.resource write.item h
    rw [hpost] at hserver
    exact hserver
  | @refuse i write _ _ hwrite hpost =>
    have hserver := Repository.contains_post x.client.resource write.item h
    rw [hpost] at hserver
    exact hserver
  | _ => exact h

/-! ## Runs -/

theorem run_concat (x : Exchange) (events : List Event) (e : Event) :
    x.run (events ++ [e]) = (x.run events).step e :=
  List.foldl_concat step x e events

/-- **What every move keeps holds along every run.** -/
theorem run_keeps {P : Exchange → Prop} (hkeeps : ∀ {x e x'}, P x → Moves x e x' → P x') {x : Exchange}
    (hx : P x) (events : List Event) : P (x.run events) := by
  induction events generalizing x with
  | nil => exact hx
  | cons e events ih => exact ih (hkeeps hx (moves_step x e))

theorem resource_run (x : Exchange) (events : List Event) :
    (x.run events).client.resource = x.client.resource :=
  run_keeps (P := fun y => y.client.resource = x.client.resource)
    (fun h hmove => (resource_moves hmove).trans h) rfl events

theorem contains_run {x : Exchange} {p : Path} (h : x.server.contains p = true) (events : List Event) :
    (x.run events).server.contains p = true :=
  run_keeps (P := fun y => y.server.contains p = true) (fun h hmove => contains_moves h hmove) h events

end Exchange

end TodoSite
