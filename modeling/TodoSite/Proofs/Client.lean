/-
  What a fetch gives.

  1. **The target** — the export of a list is asked for at its path, without the slashes at the end of
     that and with the ending of exports.  This is a target that is its own path, unless it is too long.
     It is no file where the list is none (`not_namesFile_model`).

  2. **The answer** (`fetch_of_name`) — the server takes the ending off and finds the list that was
     meant.  From slashes alone nothing is left before the ending, and the ending alone is the name of a
     host, under which there is no list (`fetch_of_slashes`).

  3. **One list** (`fetch_eq`) — the items that are fetched are what the nodes hold to which the items of
     the list are written.
-/
import TodoSite.Client
import TodoSite.Proofs.Http.Uri
import TodoSite.Proofs.Model.Json
import TodoSite.Proofs.Repository.Export
import TodoSite.Proofs.Router

namespace TodoSite.Client

open Text (dropEndSlashes)

variable {r : Repository} {p : Path} {resource path : String} {m : Model}

/-! ## The target -/

theorem dropEndSlashes_eq_nil_iff :
    (dropEndSlashes resource).toList = [] ↔ resource.toList.all (· == '/') = true := by
  rw [Path.toList_dropEndSlashes, Text.dropEndWhile_eq_nil_iff, List.all_eq_true]

theorem dropEndSlashes_prefix : (dropEndSlashes resource).toList <+: resource.toList := by
  rw [Path.toList_dropEndSlashes]
  exact Text.dropEndWhile_prefix _

theorem toList_model (resource : String) :
    (Address.model resource).toList = (dropEndSlashes resource).toList ++ Address.modelEnding.toList :=
  String.toList_append

/-- The address of an export is made of the characters of paths, as that of its list. -/
theorem isPathChar_model (hchars : ∀ c ∈ resource.toList, Uri.isPathChar c = true) :
    ∀ c ∈ (Address.model resource).toList, Uri.isPathChar c = true := by
  have hending : ∀ c ∈ Address.modelEnding.toList, Uri.isPathChar c = true :=
    List.all_eq_true.mp (by decide)
  intro c hc
  rw [toList_model] at hc
  rcases List.mem_append.mp hc with hc | hc
  · exact hchars c (List.IsPrefix.subset dropEndSlashes_prefix hc)
  · exact hending c hc

/-- **The address of an export is no file** where that of its list is none. -/
theorem not_namesFile_model (hfile : ¬ NamesFile resource) : ¬ NamesFile (Address.model resource) := by
  rintro ⟨c, more, hmodel⟩
  rw [toList_model] at hmodel
  have hroot : Router.filesRoot.toList = "/clientlib".toList ++ ['/'] := by decide
  -- no slash is left at the end of the path, and there is none in the ending
  have hbefore : ∀ before, (dropEndSlashes resource).toList ≠ before ++ ['/'] := by
    intro before
    rw [Path.toList_dropEndSlashes]
    exact Text.dropEndWhile_ne_concat (by decide) before resource.toList
  have hending : '/' ∉ Address.modelEnding.toList := by decide
  rcases List.append_eq_append_iff.mp hmodel with ⟨beyond, hfiles, hend⟩ | ⟨beyond, hpath, -⟩
  · -- the files begin behind the path, with what would be the last slash of it or one of the ending
    rw [hroot] at hfiles
    rcases List.suffix_concat_iff.mp ⟨_, hfiles.symm⟩ with hnil | ⟨init, hinit, -⟩
    · rw [hnil, List.append_nil] at hfiles
      exact hbefore _ hfiles.symm
    · refine hending ?_
      rw [hend, hinit]
      simp
  · -- the path itself is that of a file
    cases beyond with
    | nil =>
      rw [hroot, List.append_nil] at hpath
      exact hbefore _ hpath
    | cons c beyond =>
      have hprefix : (dropEndSlashes resource).toList <+: resource.toList := dropEndSlashes_prefix
      obtain ⟨rest, hrest⟩ := hprefix
      refine hfile ⟨c, beyond ++ rest, ?_⟩
      rw [← hrest, hpath, List.append_assoc]
      rfl

/-! ## The answer -/

/-- The client reads what is answered at the path of the target.  A target without a path is not sent. -/
theorem fetch_eq_reply (r : Repository) (resource : String) :
    (store.fetch { server := some r } resource).1
      = fetched (match Uri.path? (Address.model resource) with
        | none => .failed "bad uri"
        | some path =>
          .answered (Router.respond r { path }).1.status
            (Text.decodeLossy (Router.respond r { path }).1.body)) := by
  have hmade : (Request.isMethod "GET" && "".toList.all Request.isHeaderChar) = true := by decide
  have hmake : Request.make? (Address.model resource) "GET" none []
      = (Uri.path? (Address.model resource)).map fun path => { path } := if_pos hmade
  -- no form is announced, and there is no body
  have htype : ([("Accept", "application/json")].find? fun header => header.1 = "Content-Type") = none := by
    decide
  have hbody : Text.encode ((none : Option String).getD "") = [] := by decide
  show fetched (Network.askServer r (fetchRequest resource)).1 = _
  rw [Network.askServer, fetchRequest]
  dsimp only
  rw [htype, hbody, Option.map_none, hmake]
  cases Uri.path? (Address.model resource) with
  | none => rfl
  | some path => rfl

theorem fetch_of_path (hpath : Uri.path? (Address.model resource) = some path) (hfile : ¬ NamesFile path) :
    (store.fetch { server := some r } resource).1
      = fetched (.answered (Router.read r path).status (Text.decodeLossy (Router.read r path).body)) := by
  rw [fetch_eq_reply, hpath]
  dsimp only
  rw [Router.respond_get hfile]

theorem fetch_of_no_path (hpath : Uri.path? (Address.model resource) = none) :
    (store.fetch { server := some r } resource).1 = .error (.request "bad uri") := by
  rw [fetch_eq_reply, hpath]
  rfl

/-- **Slashes alone** are asked for at a host, and nothing is found there. -/
theorem fetch_of_slashes (hslashes : resource.toList.all (· == '/') = true) :
    (store.fetch { server := some r } resource).1 = .error (.status 404) := by
  have hmodel : Address.model resource = Address.modelEnding := by
    apply String.toList_inj.mp
    rw [toList_model, dropEndSlashes_eq_nil_iff.mpr hslashes, List.nil_append]
  have hpath : Uri.path? (Address.model resource) = some "" := by
    rw [hmodel]
    decide +kernel
  have hfile : ¬ NamesFile "" := by decide
  have hread : Router.read r "" = (RepositoryError.notFound "").response := by
    have hmodelEnding : Text.dropEnding? Address.modelEnding "" = none := by decide
    have hpropertiesEnding : Text.dropEnding? Router.propertiesEnding "" = none := by decide
    rw [Router.read, hmodelEnding]
    dsimp only
    rw [hpropertiesEnding]
    rfl
  rw [fetch_of_path hpath hfile, hread]
  rfl

/-- **The server finds the list** whose export is asked for. -/
theorem read_model (hm : r.model (dropEndSlashes resource) = .ok m) :
    Router.read r (Address.model resource) = .json m.render := by
  rw [Router.read, Address.model, Text.dropEnding?_append]
  dsimp only
  rw [hm]

/-- What is exported is read by the client. -/
theorem fetched_json (m : Model) :
    fetched (.answered (Response.json m.render).status (Text.decodeLossy (Response.json m.render).body))
      = .ok m := by
  have hstatus : (Response.json m.render).status = 200 := rfl
  have hbody : (Response.json m.render).body = Text.encode m.render := by simp only [Response.json]
  have hsuccess : isSuccess 200 = true := by decide
  rw [hstatus, hbody, fetched, if_pos hsuccess, Text.decodeLossy_encode, readModel_render]

/-- **A path with a name** leads to the list that it names. -/
theorem fetch_of_name {node : Node} (hp : Path.ofString? resource = some p) (hnode : r.get? p = some node)
    (hname : ¬ resource.toList.all (· == '/') = true)
    (hchars : ∀ c ∈ resource.toList, Uri.isPathChar c = true) (hfile : ¬ NamesFile resource)
    (hsize : (Address.model resource).utf8ByteSize ≤ Uri.maxBytes) :
    (store.fetch { server := some r } resource).1 = .ok (r.modelAt p node) := by
  have hne : (dropEndSlashes resource).toList ≠ [] := fun he => hname (dropEndSlashes_eq_nil_iff.mp he)
  obtain ⟨hslash, hpath⟩ := Path.ofString?_dropEndSlashes hp hne
  have hhead : (Address.model resource).toList.head? = some '/' := by
    rw [toList_model, List.head?_append_of_ne_nil _ hne]
    exact hslash
  have htarget := Uri.path?_eq_self hhead (isPathChar_model hchars) hsize
  have hread := read_model (Repository.model_eq hpath hnode)
  rw [fetch_of_path htarget (not_namesFile_model hfile), hread, fetched_json]

/-! ## One list -/

/-- **A fetch gives the list whose items are written to.**  It gives the model of the list, unless the
    path is too long for a target or is made of slashes alone.  The item with a key is what the node holds
    to which an item with this key is written. -/
theorem fetch_eq (hr : Repository.Reachable r) (hp : Path.ofString? resource = some p)
    (hnode : r.contains p = true) (hchars : ∀ c ∈ resource.toList, Uri.isPathChar c = true)
    (hfile : ¬ NamesFile resource) :
    ∃ m, r.model resource = .ok m
      ∧ (store.fetch { server := some r } resource).1
        = (if resource.toList.all (· == '/') then .error (.status 404)
          else if Uri.maxBytes < (Address.model resource).utf8ByteSize then .error (.request "bad uri")
          else .ok m)
      ∧ ∀ key, Path.IsSegment key →
        Path.ofString? (Address.item resource key) = some ((Repository.itemsFolder p).child key)
          ∧ m.items.find? (fun item => item.key = key)
            = (r.get? ((Repository.itemsFolder p).child key)).map
                (Repository.itemAt ((Repository.itemsFolder p).child key)) := by
  obtain ⟨node, hget⟩ := Repository.contains_iff.mp hnode
  refine ⟨r.modelAt p node, Repository.model_eq hp hget, ?_, fun key hkey => ?_⟩
  · by_cases hslashes : resource.toList.all (· == '/') = true
    · rw [if_pos hslashes, fetch_of_slashes hslashes]
    · rw [if_neg hslashes]
      by_cases hsize : Uri.maxBytes < (Address.model resource).utf8ByteSize
      · rw [if_pos hsize, fetch_of_no_path (Uri.path?_eq_none_of_long hsize)]
      · rw [if_neg hsize, fetch_of_name hp hget hslashes hchars hfile (Nat.not_lt.mp hsize)]
  · exact ⟨Path.ofString?_item hp hkey, Repository.find?_items hr.isTree node key⟩

/-- A list with the name of an export, asked for with slashes at the end.  One ending is taken off, the
    other stays. -/
theorem fetch_eq_named_like_export :
    let r := (({} : Repository).seed "/l.model.json" "L" [{ name := "Buy milk", key := "1" }]).2
    let milk : Item := { name := "Buy milk", key := "1", path := some "/l.model.json/items/1" }
    Repository.Reachable r ∧ Path.ofString? "/l.model.json//" = some (.child .root "l.model.json")
      ∧ r.contains (.child .root "l.model.json") = true
      ∧ (∀ c ∈ "/l.model.json//".toList, Uri.isPathChar c = true) ∧ ¬ NamesFile "/l.model.json//"
      ∧ (store.fetch { server := some r } "/l.model.json//").1 = .ok { title := "L", items := [milk] } := by
  intro r milk
  have hr : Repository.Reachable r := .seed _ _ _ .new
  have hp : Path.ofString? "/l.model.json//" = some (.child .root "l.model.json") := by decide +kernel
  have hnode : r.contains (.child .root "l.model.json") = true := by decide +kernel
  have hchars : ∀ c ∈ "/l.model.json//".toList, Uri.isPathChar c = true := List.all_eq_true.mp (by decide)
  have hfile : ¬ NamesFile "/l.model.json//" := by decide
  obtain ⟨m, hm, hfetch, -⟩ := fetch_eq hr hp hnode hchars hfile
  have hname : ¬ "/l.model.json//".toList.all (· == '/') = true := by decide
  have hsize : ¬ Uri.maxBytes < (Address.model "/l.model.json//").utf8ByteSize := by decide +kernel
  rw [if_neg hname, if_neg hsize] at hfetch
  have hstored : (r.model "/l.model.json//").toOption = some { title := "L", items := [milk] } := by
    decide +kernel
  rw [hm] at hstored
  obtain rfl := Option.some.inj hstored
  exact ⟨hr, hp, hnode, hchars, hfile, hfetch⟩

/-- **The list at the root** is there and its items are written, and its export is found at the path with
    the ending of exports behind it; a fetch asks elsewhere. -/
theorem root_not_found :
    let r := (({} : Repository).seed "/" "L" [{ name := "Buy milk", key := "1" }]).2
    let milk : Item := { name := "Buy milk", key := "1", path := some "/items/1" }
    Repository.Reachable r ∧ Path.ofString? "/" = some .root ∧ r.contains .root = true
      ∧ (∀ c ∈ "/".toList, Uri.isPathChar c = true) ∧ ¬ NamesFile "/"
      ∧ (r.model "/").toOption = some { title := "L", items := [milk] }
      ∧ (r.post "/" { milk with done := true }).1.toOption = some .updated
      ∧ Router.read r ("/" ++ Address.modelEnding) = .json (Model.render { title := "L", items := [milk] })
      ∧ (store.fetch { server := some r } "/").1 = .error (.status 404) := by
  intro r milk
  have hread : Router.read r ("/" ++ Address.modelEnding)
      = .json (Model.render { title := "L", items := [milk] }) := by
    decide +kernel
  exact ⟨.seed _ _ _ .new, by decide +kernel, by decide +kernel, List.all_eq_true.mp (by decide), by decide,
    by decide +kernel, by decide +kernel, hread, fetch_of_slashes (by decide)⟩

end TodoSite.Client
