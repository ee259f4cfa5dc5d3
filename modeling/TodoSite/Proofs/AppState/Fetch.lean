/-
  When a page is to fetch its model.

  A page that is told to ask for its model answers whether a fetch is to be started.  The answer depends only
  on the calls before it.

  1. **Waiting** (`Awaited`) — a fetch has been asked for, and no result has come in since.

  2. **Supplied** (`Supplied`) — the page began with its model, or a model has come in while it was awaited.

  3. **Along a run** (`tells_run`) — these two say in which state a page is.

  4. **The answer** (`beginFetch_answer`) is yes as long as the page has no model, and no ever after.  That
     a result is awaited makes no difference: a page that is asked twice has its model fetched twice
     (`fetched_twice`).
-/
import TodoSite.Proofs.AppState.Run

namespace TodoSite.AppState

/-! ## What has happened -/

/-- Whether a call brings a result of a fetch. -/
def Call.IsResult (call : Call) : Prop := ∃ result, call = .handle (.model result)

/-- A fetch has been asked for, and no result has come in since. -/
def Awaited (calls : List Call) : Prop :=
  ∃ before since, calls = before ++ .beginFetch :: since ∧ ∀ call ∈ since, ¬ call.IsResult

/-- A model has come in while it was awaited. -/
def Answered (calls : List Call) : Prop :=
  ∃ before model after, calls = before ++ .handle (.model (.ok model)) :: after ∧ Awaited before

/-- The page began with its model, or a model has come in while it was awaited. -/
def Supplied (o : Opening) (calls : List Call) : Prop :=
  (∃ resource model, o = .embedded resource model) ∨ Answered calls

variable {o : Opening} {calls more : List Call} {call : Call}

/-- A list that has grown at its end is split at the new element or before it. -/
theorem concat_eq_append_cons_iff {α : Type} {xs before after : List α} {x y : α} :
    xs ++ [x] = before ++ y :: after
      ↔ (xs = before ∧ x = y ∧ after = []) ∨ ∃ rest, after = rest ++ [x] ∧ xs = before ++ y :: rest := by
  constructor
  · intro h
    rcases List.eq_nil_or_concat after with rfl | ⟨rest, z, rfl⟩
    · obtain ⟨rfl, hx⟩ := List.append_inj' h rfl
      exact Or.inl ⟨rfl, List.head_eq_of_cons_eq hx, rfl⟩
    · rw [List.concat_eq_append, ← List.cons_append, ← List.append_assoc] at h
      obtain ⟨rfl, hx⟩ := List.append_inj' h rfl
      obtain rfl := List.head_eq_of_cons_eq hx
      exact Or.inr ⟨rest, List.concat_eq_append, rfl⟩
  · rintro (⟨rfl, rfl, rfl⟩ | ⟨rest, rfl, rfl⟩)
    · rfl
    · rw [List.append_assoc, List.cons_append]

theorem awaited_concat : Awaited (calls ++ [call]) ↔ call = .beginFetch ∨ (Awaited calls ∧ ¬ call.IsResult) := by
  constructor
  · rintro ⟨before, since, hsplit, hsince⟩
    rcases concat_eq_append_cons_iff.mp hsplit with ⟨-, hcall, -⟩ | ⟨rest, rfl, rfl⟩
    · exact Or.inl hcall
    · obtain ⟨hrest, hlast⟩ := List.forall_mem_append.mp hsince
      exact Or.inr ⟨⟨before, rest, rfl, hrest⟩, hlast call List.mem_cons_self⟩
  · rintro (rfl | ⟨⟨before, since, rfl, hsince⟩, hcall⟩)
    · exact ⟨calls, [], rfl, List.forall_mem_nil _⟩
    · refine ⟨before, since ++ [call], by rw [List.append_assoc, List.cons_append], ?_⟩
      exact List.forall_mem_append.mpr ⟨hsince, List.forall_mem_singleton.mpr hcall⟩

theorem answered_concat : Answered (calls ++ [call])
    ↔ Answered calls ∨ (Awaited calls ∧ ∃ model, call = .handle (.model (.ok model))) := by
  constructor
  · rintro ⟨before, model, after, hsplit, hbefore⟩
    rcases concat_eq_append_cons_iff.mp hsplit with ⟨rfl, hcall, -⟩ | ⟨rest, -, rfl⟩
    · exact Or.inr ⟨hbefore, model, hcall⟩
    · exact Or.inl ⟨before, model, rest, rfl, hbefore⟩
  · rintro (⟨before, model, after, rfl, hbefore⟩ | ⟨hawaited, model, rfl⟩)
    · exact ⟨before, model, after ++ [call], by rw [List.append_assoc, List.cons_append], hbefore⟩
    · exact ⟨calls, model, [], rfl, hawaited⟩

theorem supplied_concat : Supplied o (calls ++ [call])
    ↔ Supplied o calls ∨ (Awaited calls ∧ ∃ model, call = .handle (.model (.ok model))) := by
  rw [Supplied, answered_concat, ← or_assoc, Supplied]

/-- Once supplied, a page stays so. -/
theorem Supplied.append (h : Supplied o calls) (more : List Call) : Supplied o (calls ++ more) := by
  rcases h with h | ⟨before, model, after, rfl, hbefore⟩
  · exact Or.inl h
  · exact Or.inr ⟨before, model, after ++ more, by rw [List.append_assoc, List.cons_append], hbefore⟩

/-- Only a result supplies a page. -/
theorem not_supplied_append (h : ¬ Supplied o calls) (hmore : ∀ call ∈ more, ¬ call.IsResult) :
    ¬ Supplied o (calls ++ more) := by
  induction more using List.reverseRecOn with
  | nil => rwa [List.append_nil]
  | append_singleton more call ih =>
    obtain ⟨hmore, hlast⟩ := List.forall_mem_append.mp hmore
    rw [← List.append_assoc, supplied_concat]
    rintro (hsupplied | ⟨-, model, rfl⟩)
    · exact ih hmore hsupplied
    · exact hlast _ List.mem_cons_self ⟨_, rfl⟩

/-! ## Along a run -/

/-- What the state of a page says of the calls that have led to it. -/
def Tells (o : Opening) (calls : List Call) : Hydration → Prop
  | .unhydrated => ¬ Supplied o calls ∧ ¬ Awaited calls
  | .loading => ¬ Supplied o calls ∧ Awaited calls
  | .hydrated _ => Supplied o calls

/-- Who has no model waits when it has asked. -/
theorem tells_begin {state : Hydration} (h : Tells o calls state) :
    Tells o (calls ++ [.beginFetch]) state.begin := by
  have hawaited : Awaited (calls ++ [.beginFetch]) := awaited_concat.mpr (Or.inl rfl)
  have hsupplied : Supplied o (calls ++ [.beginFetch]) → Supplied o calls := fun h =>
    (supplied_concat.mp h).elim id fun ⟨_, _, hcall⟩ => by cases hcall
  cases state with
  | unhydrated => exact ⟨fun hmore => h.1 (hsupplied hmore), hawaited⟩
  | loading => exact ⟨fun hmore => h.1 (hsupplied hmore), hawaited⟩
  | hydrated model => exact h.append _

/-- Nobody waits behind a result, and a model is taken by who has waited. -/
theorem tells_resolve {state : Hydration} (h : Tells o calls state) (result : Except RemoteError Model) :
    Tells o (calls ++ [.handle (.model result)]) (state.resolve result) := by
  have hawaited : ¬ Awaited (calls ++ [.handle (.model result)]) := by
    rw [awaited_concat]
    rintro (hcall | ⟨-, hresult⟩)
    · cases hcall
    · exact hresult ⟨result, rfl⟩
  cases state with
  | unhydrated =>
    refine ⟨fun hmore => ?_, hawaited⟩
    exact (supplied_concat.mp hmore).elim h.1 fun hwaited => h.2 hwaited.1
  | loading =>
    cases result with
    | ok model => exact supplied_concat.mpr (Or.inr ⟨h.2, model, rfl⟩)
    | error error =>
      refine ⟨fun hmore => ?_, hawaited⟩
      exact (supplied_concat.mp hmore).elim h.1 fun ⟨_, _, hcall⟩ => by cases hcall
  | hydrated model => exact Supplied.append h _

/-- Other calls are as good as none. -/
theorem tells_skip {state : Hydration} (h : Tells o calls state) (hask : call ≠ .beginFetch)
    (hresult : ¬ call.IsResult) : Tells o (calls ++ [call]) state := by
  have hawaited : Awaited (calls ++ [call]) ↔ Awaited calls := by
    rw [awaited_concat]
    exact ⟨fun h => (h.resolve_left hask).1, fun h => Or.inr ⟨h, hresult⟩⟩
  have hsupplied : Supplied o (calls ++ [call]) → Supplied o calls := fun h =>
    (supplied_concat.mp h).elim id fun ⟨_, model, hcall⟩ => absurd ⟨.ok model, hcall⟩ hresult
  cases state with
  | unhydrated => exact ⟨fun hmore => h.1 (hsupplied hmore), fun hmore => h.2 (hawaited.mp hmore)⟩
  | loading => exact ⟨fun hmore => h.1 (hsupplied hmore), hawaited.mpr h.2⟩
  | hydrated model => exact Supplied.append h _

theorem hydration_finishFetch (s : AppState) (result : Except RemoteError Model) :
    (s.finishFetch result).hydration = s.hydration.resolve result := by
  unfold finishFetch
  dsimp only
  split <;> rfl

/-- What one call does to what the state says. -/
theorem tells_call {s : AppState} (h : Tells o calls s.hydration) (call : Call) :
    Tells o (calls ++ [call]) (s.call call).1.hydration := by
  cases call with
  | beginFetch => exact tells_begin h
  | type text => exact tells_skip h (by simp) (by simp [Call.IsResult])
  | submit => exact tells_skip h (by simp) (by simp [Call.IsResult])
  | dispatch action => exact tells_skip h (by simp) (by simp [Call.IsResult])
  | handle delivery =>
    cases delivery with
    | action action => exact tells_skip h (by simp) (by simp [Call.IsResult])
    | model result =>
      show Tells o _ (s.finishFetch result).hydration
      rw [hydration_finishFetch]
      exact tells_resolve h result

/-- **In which state a page is** after any calls. -/
theorem tells_run (o : Opening) (calls : List Call) : Tells o calls (o.page.run calls).hydration := by
  induction calls using List.reverseRecOn with
  | nil =>
    cases o with
    | titled title resource =>
      refine ⟨?_, ?_⟩
      · rintro (⟨_, _, h⟩ | ⟨before, _, _, h, -⟩)
        · cases h
        · cases before <;> cases h
      · rintro ⟨before, _, h, -⟩
        cases before <;> cases h
    | embedded resource model => exact Or.inl ⟨resource, model, rfl⟩
  | append_singleton calls call ih =>
    have hrun : o.page.run (calls ++ [call]) = ((o.page.run calls).call call).1 := List.foldl_concat _ _ _ _
    rw [hrun]
    exact tells_call ih call

/-! ## The answer -/

theorem unhydrated_iff (o : Opening) (calls : List Call) :
    (o.page.run calls).hydration = .unhydrated ↔ ¬ Supplied o calls ∧ ¬ Awaited calls := by
  have h := tells_run o calls
  cases hs : (o.page.run calls).hydration with
  | unhydrated => rw [hs] at h; exact iff_of_true rfl h
  | loading => rw [hs] at h; exact iff_of_false (by simp) fun hno => hno.2 h.2
  | hydrated model => rw [hs] at h; exact iff_of_false (by simp) fun hno => hno.1 h

theorem loading_iff (o : Opening) (calls : List Call) :
    (o.page.run calls).hydration = .loading ↔ ¬ Supplied o calls ∧ Awaited calls := by
  have h := tells_run o calls
  cases hs : (o.page.run calls).hydration with
  | unhydrated => rw [hs] at h; exact iff_of_false (by simp) fun hno => h.2 hno.2
  | loading => rw [hs] at h; exact iff_of_true rfl h
  | hydrated model => rw [hs] at h; exact iff_of_false (by simp) fun hno => hno.1 h

/-- A page says that a fetch is to be started as long as it has no model. -/
theorem beginFetch_eq_true_iff (o : Opening) (calls : List Call) :
    (o.page.run calls).beginFetch.1 = true ↔ ¬ Supplied o calls := by
  have h := tells_run o calls
  have hanswer : (o.page.run calls).beginFetch.1 = (o.page.run calls).hydration.begin.isLoading := rfl
  rw [hanswer]
  cases hs : (o.page.run calls).hydration with
  | unhydrated => rw [hs] at h; exact iff_of_true rfl h.1
  | loading => rw [hs] at h; exact iff_of_true rfl h.1
  | hydrated model => rw [hs] at h; exact iff_of_false Bool.false_ne_true (not_not_intro h)

/-- **What a page answers that is to ask for its model**, whatever has happened before.  It says yes until it
    is supplied, be it that a result is awaited already, and no ever after.  So while a result is awaited it
    says yes again. -/
theorem beginFetch_answer (o : Opening) (calls : List Call) :
    let s := o.page.run calls
    (s.beginFetch.1 = true ↔ ¬ Supplied o calls)
      ∧ (s.hydration = .unhydrated ↔ ¬ Supplied o calls ∧ ¬ Awaited calls)
      ∧ (s.hydration = .loading ↔ ¬ Supplied o calls ∧ Awaited calls)
      ∧ (s.beginFetch.1 = false → ∀ more, (s.run more).beginFetch.1 = false)
      ∧ (s.beginFetch.1 = true → ∀ more, (∀ call ∈ more, ¬ call.IsResult) →
          (s.beginFetch.2.run more).hydration = .loading ∧ (s.beginFetch.2.run more).beginFetch.1 = true) := by
  intro s
  refine ⟨beginFetch_eq_true_iff o calls, unhydrated_iff o calls, loading_iff o calls, fun hno more => ?_,
    fun hyes more hmore => ?_⟩
  · rw [← Bool.not_eq_true, beginFetch_eq_true_iff, not_not] at hno
    rw [← run_append, ← Bool.not_eq_true, beginFetch_eq_true_iff, not_not]
    exact hno.append more
  · have hrun : s.beginFetch.2.run more = o.page.run (calls ++ .beginFetch :: more) := by
      rw [run_append]
      rfl
    have hresults : ∀ call ∈ Call.beginFetch :: more, ¬ call.IsResult :=
      List.forall_mem_cons.mpr ⟨by simp [Call.IsResult], hmore⟩
    have hsupplied := not_supplied_append ((beginFetch_eq_true_iff o calls).mp hyes) hresults
    rw [hrun]
    exact ⟨(loading_iff o _).mpr ⟨hsupplied, calls, more, rfl, hmore⟩, (beginFetch_eq_true_iff o _).mpr hsupplied⟩

/-- A page that is asked twice says yes twice: it has its model fetched again while a result is awaited. -/
theorem fetched_twice :
    let s := (Opening.titled "T" "/l").page
    let s' := s.beginFetch.2
    s.beginFetch.1 = true ∧ s'.hydration = .loading ∧ s'.beginFetch.1 = true := by
  decide +kernel

end TodoSite.AppState
