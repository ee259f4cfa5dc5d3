/-
  The server and its repository.

  1. **One request** (`served_respond`) — a form write is a write to the repository.  It is answered 201,
     200 or 400, as the node is new, was there, or the write is refused.  A refused write leaves the tree
     as it was, and so does every request that is no form write.

  2. **Many requests** (`respondAll_refines`) — each is answered on the tree that the one before has left,
     and in the end the tree is what the repository makes of the form writes alone.

  CRUX.  A form is announced by a header that begins with the type of a form and can be read as text.  A
  header with a character outside ASCII cannot be read, whatever it begins with; the body behind it is not
  looked at (`form_unannounced`).  A body is taken to be no longer than the server reads.
-/
import TodoSite.Proofs.Repository.Tree
import TodoSite.Router

namespace TodoSite

/-! ## Form writes -/

/-- Whether a path is the address of a file: where these begin, and at least one character more. -/
def NamesFile (path : String) : Prop :=
  ∃ c more, path.toList = Router.filesRoot.toList ++ c :: more

/-- A form that is sent to an address which is not that of a file. -/
structure Request.IsWrite (request : Request) : Prop where
  /-- It is posted. -/
  method : request.method = "POST"
  /-- It is not sent to a file. -/
  path : ¬ NamesFile request.path
  /-- Its header can be read as text and begins with the type of a form. -/
  form : ∃ type, request.contentType = some type
    ∧ (∀ c ∈ type.toList, Request.isHeaderText c = true) ∧ formType.toList <+: type.toList

theorem isFilePath_iff (path : String) : Router.isFilePath path = true ↔ NamesFile path := by
  unfold Router.isFilePath NamesFile
  rw [Bool.and_eq_true, List.isPrefixOf_iff_prefix, decide_eq_true_iff, ← String.length_toList,
    ← String.length_toList]
  constructor
  · rintro ⟨⟨rest, hrest⟩, hlength⟩
    cases rest with
    | nil =>
      rw [← hrest, List.append_nil] at hlength
      omega
    | cons c more => exact ⟨c, more, hrest.symm⟩
  · rintro ⟨c, more, hpath⟩
    refine ⟨⟨c :: more, hpath.symm⟩, ?_⟩
    rw [hpath, List.length_append, List.length_cons]
    omega

instance : DecidablePred NamesFile := fun path => decidable_of_iff _ (isFilePath_iff path)

theorem isForm_iff (request : Request) :
    request.isForm = true ↔ ∃ type, request.contentType = some type
      ∧ (∀ c ∈ type.toList, Request.isHeaderText c = true) ∧ formType.toList <+: type.toList := by
  unfold Request.isForm
  cases request.contentType with
  | none => simp
  | some type => simp [List.all_eq_true]

instance : DecidablePred Request.IsWrite := fun request =>
  decidable_of_iff
    (request.method = "POST" ∧ ¬ Router.isFilePath request.path = true ∧ request.isForm = true) <| by
    rw [isFilePath_iff, isForm_iff]
    exact ⟨fun ⟨hmethod, hpath, hform⟩ => ⟨hmethod, hpath, hform⟩,
      fun h => ⟨h.method, h.path, h.form⟩⟩

namespace Repository

/-- What the repository makes of a form write. -/
def take (r : Repository) (request : Request) : Except RepositoryError Upsert × Repository :=
  r.upsert request.path (Form.decode request.body)

/-- The tree after form writes, one after another. -/
def takeAll (r : Repository) (requests : List Request) : Repository :=
  requests.foldl (fun r request => (r.take request).2) r

end Repository

namespace Router

variable {r : Repository} {request : Request}

/-! ## One request -/

/-- **A form write** goes to the repository. -/
theorem respond_of_isWrite (h : request.IsWrite) : respond r request
    = match r.take request with
      | (.ok .created, r) => ({ status := 201 }, r)
      | (.ok .updated, r) => ({ status := 200 }, r)
      | (.error e, r) => (e.response, r) := by
  have hpath : ¬ isFilePath request.path = true := fun he => h.path ((isFilePath_iff _).mp he)
  rw [respond, if_neg hpath]
  simp only [h.method]
  rw [write, if_pos ((isForm_iff _).mpr h.form)]
  rfl

/-- A path that is no file is looked at. -/
theorem respond_get {path : String} (h : ¬ NamesFile path) : respond r { path } = (read r path, r) := by
  have hpath : ¬ isFilePath path = true := fun he => h ((isFilePath_iff _).mp he)
  rw [respond, if_neg hpath]
  rfl

/-- The tree after a form write is that of the repository. -/
theorem tree_of_isWrite (h : request.IsWrite) : (respond r request).2 = (r.take request).2 := by
  rw [respond_of_isWrite h]
  cases r.take request with
  | mk result next =>
    cases result with
    | error e => rfl
    | ok outcome =>
      cases outcome with
      | created => rfl
      | updated => rfl

/-- A form write that is taken is answered by whether there was a node. -/
theorem status_of_taken (h : request.IsWrite) {outcome : Repository.Upsert}
    (htake : (r.take request).1 = .ok outcome) :
    (respond r request).1.status = if r.at? request.path = none then 201 else 200 := by
  have houtcome := Repository.upsert_eq_ok htake
  rw [respond_of_isWrite h]
  cases hr : r.take request with
  | mk result next =>
    rw [hr] at htake
    obtain rfl : result = .ok outcome := htake
    by_cases hnone : r.at? request.path = none
    · rw [if_pos hnone] at houtcome ⊢
      rw [houtcome]
    · rw [if_neg hnone] at houtcome ⊢
      rw [houtcome]

/-- A form write that is refused is answered 400, whatever it is refused for. -/
theorem status_of_refused (h : request.IsWrite) {e : RepositoryError}
    (htake : (r.take request).1 = .error e) :
    (respond r request).1.status = 400 := by
  obtain ⟨-, hcause⟩ := Repository.upsert_eq_error htake
  have hstatus : e.response.status = 400 := by
    rcases hcause with rfl | ⟨property, hint, value, rfl⟩
    · rfl
    · rfl
  rw [respond_of_isWrite h]
  cases hr : r.take request with
  | mk result next =>
    rw [hr] at htake
    obtain rfl : result = .error e := htake
    exact hstatus

/-- **Any other request** leaves the tree alone. -/
theorem respond_of_not_isWrite (h : ¬ request.IsWrite) : (respond r request).2 = r := by
  unfold respond
  split
  · rfl
  · rename_i hpath
    split
    · rfl
    · rfl
    · rename_i hmethod
      have hform : ¬ request.isForm = true := by
        intro hform
        exact h ⟨hmethod, fun he => hpath ((isFilePath_iff _).mpr he), (isForm_iff _).mp hform⟩
      rw [write, if_neg hform]
    · rfl

/-- What is true of a request, the tree before it, the answer to it, and the tree after it. -/
structure Served (before : Repository) (request : Request) (response : Response)
    (after : Repository) : Prop where
  /-- A form write leaves the tree that the repository makes of it. -/
  taken : request.IsWrite → after = (before.take request).2
  /-- A write that is taken is answered 201 where there was no node. -/
  created : ∀ outcome, request.IsWrite → (before.take request).1 = .ok outcome →
    before.at? request.path = none → response.status = 201
  /-- A write that is taken is answered 200 where there was a node. -/
  updated : ∀ outcome, request.IsWrite → (before.take request).1 = .ok outcome →
    before.at? request.path ≠ none → response.status = 200
  /-- A write that is refused is answered 400, and leaves the tree as it was. -/
  refused : ∀ e, request.IsWrite → (before.take request).1 = .error e →
    response.status = 400 ∧ after = before
  /-- Any other request leaves the tree as it was. -/
  untouched : ¬ request.IsWrite → after = before

/-- **One request.** -/
theorem served_respond (r : Repository) (request : Request) :
    Served r request (respond r request).1 (respond r request).2 := by
  constructor
  · intro hwrite
    exact tree_of_isWrite hwrite
  · intro outcome hwrite htake hnone
    rw [status_of_taken hwrite htake, if_pos hnone]
  · intro outcome hwrite htake hsome
    rw [status_of_taken hwrite htake, if_neg hsome]
  · intro e hwrite htake
    constructor
    · exact status_of_refused hwrite htake
    · rw [tree_of_isWrite hwrite]
      exact (Repository.upsert_eq_error htake).1
  · intro hother
    exact respond_of_not_isWrite hother

/-! ## Many requests -/

/-- Requests and their answers in order, between the trees at the beginning and at the end. -/
inductive ServedAll : Repository → List Request → List Response → Repository → Prop where
  /-- Nothing is asked. -/
  | nil {r : Repository} : ServedAll r [] [] r
  /-- A request is answered, and the others on the tree that it leaves. -/
  | cons {r next last : Repository} {request : Request} {response : Response}
    {requests : List Request} {responses : List Response} (first : Served r request response next)
    (rest : ServedAll next requests responses last) :
    ServedAll r (request :: requests) (response :: responses) last

theorem servedAll_respondAll (r : Repository) (requests : List Request) :
    ServedAll r requests (respondAll r requests).1 (respondAll r requests).2 := by
  induction requests generalizing r with
  | nil => exact .nil
  | cons request requests ih => exact .cons (served_respond r request) (ih _)

/-- Requests that are no form writes might as well not have been made. -/
theorem ServedAll.eq_takeAll {requests : List Request} {responses : List Response}
    {last : Repository} (h : ServedAll r requests responses last) :
    last = r.takeAll (requests.filter fun request => request.IsWrite) := by
  induction h with
  | nil => rfl
  | cons first rest ih =>
    rename_i r next last request response requests responses
    by_cases hwrite : request.IsWrite
    · have hkeep : (request :: requests).filter (fun request => request.IsWrite)
          = request :: requests.filter fun request => request.IsWrite := by simp [hwrite]
      rw [ih, hkeep, first.taken hwrite]
      rfl
    · have hskip : (request :: requests).filter (fun request => request.IsWrite)
          = requests.filter fun request => request.IsWrite := by simp [hwrite]
      rw [ih, hskip, first.untouched hwrite]

/-- **The server does what its repository does.**  Each request is answered as is said of one, and in
    the end the tree is what the repository makes of the form writes. -/
theorem respondAll_refines (r : Repository) (requests : List Request) :
    ServedAll r requests (respondAll r requests).1 (respondAll r requests).2
      ∧ (respondAll r requests).2 = r.takeAll (requests.filter fun request => request.IsWrite) := by
  have hall := servedAll_respondAll r requests
  exact ⟨hall, hall.eq_takeAll⟩

/-- **A header that cannot be read** announces no form, though it begins with the type of one: what the
    repository would take is refused, and nothing is written. -/
theorem form_unannounced :
    let request : Request :=
      { method := "POST", path := "/a", body := Text.encode "x=1",
        contentType := some "application/x-www-form-urlencoded; charset=é" }
    Request.make? "/a" request.method request.contentType request.body = some request
      ∧ ¬ NamesFile request.path
      ∧ (∃ type, request.contentType = some type ∧ formType.toList <+: type.toList)
      ∧ (({} : Repository).take request).1.toOption = some .created
      ∧ (respondAll {} [request]).1.map Response.status = [415]
      ∧ (respondAll {} [request]).2 = {}
      ∧ ({} : Repository).takeAll [request] ≠ {} := by
  intro request
  have htype : formType.toList <+: "application/x-www-form-urlencoded; charset=é".toList := by
    decide +kernel
  exact ⟨by decide +kernel, by decide, ⟨_, rfl, htype⟩, by decide +kernel, by decide +kernel, by decide +kernel,
    by decide +kernel⟩

end Router

end TodoSite
