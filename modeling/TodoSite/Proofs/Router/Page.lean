/-
  Pages, and the bundle that they load.

  1. **When a page is answered** (`read_eq_html_iff`, `respond_eq_html_iff`) — when the path is no file, does not
     end like the address of an export, and leads to a list.  No other answer looks like a page.

  2. **The link in a page** (`bundle_served`) is a target, leads to a file, and is answered with the bundle.

  CRUX.  A file is looked for under its whole path first, and then under its last part.  Before the name of
  the bundle there is always `clientlib`, so the first search finds nothing, whatever the parts of the path
  are called (`serve_bundle`).
-/
import TodoSite.Proofs.Http.Uri
import TodoSite.Proofs.Page.State
import TodoSite.Proofs.Repository.Items
import TodoSite.Proofs.Router

namespace TodoSite

/-! ## Answers that look like a page -/

theorem Response.html_inj {document document' : String} (h : Response.html document = .html document') :
    document = document' := by
  have hbody : Text.encode document = Text.encode document' := congrArg Response.body h
  exact Text.encode_inj hbody

/-- How a page is announced. -/
def pageType : Option String := some "text/html; charset=utf-8"

theorem RepositoryError.contentType_response (e : RepositoryError) : e.response.contentType ≠ pageType := by
  cases e <;> exact (by decide : some "text/plain; charset=utf-8" ≠ pageType)

namespace Asset

theorem get?_serverFolder (name : String) : serverFolder.get? name
    = if name = "index.html" then some (Text.encode pageTemplate)
      else if name = "jsbundle.js" then some (Text.encode bundleScript) else none := by
  rw [Folder.get?, serverFolder, List.find?_cons, List.find?_singleton]
  by_cases hindex : name = "index.html"
  · rw [if_pos hindex, decide_eq_true hindex.symm, Option.map_some]
  · rw [if_neg hindex, decide_eq_false (Ne.symm hindex)]
    by_cases hbundle : name = "jsbundle.js"
    · rw [if_pos hbundle, decide_eq_true hbundle.symm]
      simp
    · rw [if_neg hbundle, decide_eq_false (Ne.symm hbundle)]
      rfl

theorem contentType_index : contentType "index.html" = "text/html" := by decide +kernel

theorem contentType_bundle : contentType "jsbundle.js" = "text/javascript" := by decide +kernel

/-- **No file is announced like a page**, not even the template. -/
theorem contentType_response (name : String) : (response serverFolder name).contentType ≠ pageType := by
  rw [response, get?_serverFolder]
  by_cases hindex : name = "index.html"
  · rw [if_pos hindex, hindex]
    show some (contentType "index.html") ≠ pageType
    rw [contentType_index]
    decide
  by_cases hbundle : name = "jsbundle.js"
  · rw [if_neg hindex, if_pos hbundle, hbundle]
    show some (contentType "jsbundle.js") ≠ pageType
    rw [contentType_bundle]
    decide
  rw [if_neg hindex, if_neg hbundle]
  exact (by decide : some "text/plain; charset=utf-8" ≠ pageType)

theorem contentType_serve (path : String) : (serve serverFolder path).contentType ≠ pageType := by
  rw [serve]
  split
  · exact contentType_response _
  · exact contentType_response _

end Asset

namespace Router

variable {r : Repository} {path document : String}

/-- An address of an export, or of the properties of a node, is not answered with a page. -/
theorem contentType_read_of_suffix (h : propertiesEnding.toList <:+ path.toList) :
    (read r path).contentType ≠ pageType := by
  have hjson : ∀ text, (Response.json text).contentType ≠ pageType := fun text =>
    (by decide : some "application/json" ≠ pageType)
  rw [read]
  split
  · split
    · exact hjson _
    · exact RepositoryError.contentType_response _
  · split
    · split
      · exact hjson _
      · exact RepositoryError.contentType_response _
    · rename_i hnone
      exact absurd h (Text.dropEnding?_eq_none_iff.mp hnone)

/-- A path that does not end like the address of an export is that of a list. -/
theorem read_of_not_suffix (h : ¬ propertiesEnding.toList <:+ path.toList) :
    read r path = match r.model path with
      | .ok model => .html (Page.fill ⟨path, model⟩ pageTemplate)
      | .error e => e.response := by
  have hmodel : ¬ Address.modelEnding.toList <:+ path.toList := fun hm =>
    h ((by decide : propertiesEnding.toList <:+ Address.modelEnding.toList).trans hm)
  rw [read, Text.dropEnding?_eq_none_iff.mpr hmodel]
  dsimp only
  rw [Text.dropEnding?_eq_none_iff.mpr h]
  dsimp only
  cases r.model path with
  | error e => rfl
  | ok m =>
    show Page.response serverFolder ⟨path, m⟩ = _
    rw [Page.response, render_serverFolder]

/-- **When a page is answered.** -/
theorem read_eq_html_iff : read r path = .html document
    ↔ ¬ propertiesEnding.toList <:+ path.toList
      ∧ ∃ m, r.model path = .ok m ∧ document = Page.fill ⟨path, m⟩ pageTemplate := by
  by_cases h : propertiesEnding.toList <:+ path.toList
  · refine iff_of_false (fun hread => contentType_read_of_suffix (r := r) h ?_) fun hpage => hpage.1 h
    rw [hread]
    rfl
  · rw [read_of_not_suffix h]
    cases r.model path with
    | error e =>
      refine iff_of_false (fun hread => e.contentType_response ?_) fun ⟨_, _, hm, _⟩ => nomatch hm
      have hread : e.response = .html document := hread
      rw [hread]
      rfl
    | ok m =>
      constructor
      · intro hread
        exact ⟨h, m, rfl, (Response.html_inj hread).symm⟩
      · rintro ⟨-, m', hm, rfl⟩
        obtain rfl := Except.ok.inj hm
        rfl

/-- A page is answered where there is no file. -/
theorem respond_eq_html_iff : (respond r { path }).1 = .html document
    ↔ ¬ NamesFile path ∧ read r path = .html document := by
  by_cases h : NamesFile path
  · refine iff_of_false (fun hfile => Asset.contentType_serve path ?_) fun hpage => hpage.1 h
    have hserve : (respond r { path }).1 = Asset.serve serverFolder path := by
      rw [respond, if_pos ((isFilePath_iff _).mpr h)]
      rfl
    rw [← hserve, hfile]
    rfl
  · rw [respond_get h]
    exact ⟨fun hread => ⟨h, hread⟩, fun hpage => hpage.2⟩

end Router

/-! ## Requests that look -/

/-- **A slash and characters of paths** can be asked for, up to the greatest length of a target. -/
theorem Request.make?_get {path : String} (hslash : path.toList.head? = some '/')
    (hchars : ∀ c ∈ path.toList, Uri.isPathChar c = true) :
    make? path = if Uri.maxBytes < path.utf8ByteSize then none else some { path } := by
  have hheaders : (isMethod "GET" && ((none : Option String).getD "").toList.all isHeaderChar) = true := by decide
  rw [make?, if_pos hheaders]
  by_cases hsize : Uri.maxBytes < path.utf8ByteSize
  · rw [if_pos hsize, Uri.path?_eq_none_of_long hsize]
    rfl
  · rw [if_neg hsize, Uri.path?_eq_self hslash hchars (Nat.not_lt.mp hsize)]
    rfl

/-! ## The address of a bundle -/

namespace Address

variable {resource : String}

theorem toList_bundle (resource : String) : (bundle resource).toList
    = "/clientlib".toList ++ ((Text.dropEndSlashes resource).toList ++ '/' :: "jsbundle.js".toList) := by
  have hname : "/jsbundle.js".toList = '/' :: "jsbundle.js".toList := by decide
  rw [bundle, String.toList_append, String.toList_append, hname, List.append_assoc]

/-- Nothing stands in the address of a bundle that may not stand in a target. -/
theorem isPathChar_bundle (h : ∀ c ∈ resource.toList, Uri.isPathChar c = true) :
    ∀ c ∈ (bundle resource).toList, Uri.isPathChar c = true := by
  have hfixed : ∀ c ∈ "/clientlib".toList ++ '/' :: "jsbundle.js".toList, Uri.isPathChar c = true :=
    List.all_eq_true.mp (by decide)
  intro c hc
  rw [toList_bundle, List.mem_append, List.mem_append] at hc
  rcases hc with hc | hc | hc
  · exact hfixed c (List.mem_append_left _ hc)
  · rw [Path.toList_dropEndSlashes] at hc
    exact h c ((Text.dropEndWhile_prefix _).subset hc)
  · exact hfixed c (List.mem_append_right _ hc)

/-- The bundle of a list is a file: what is left of the path of the list is nothing, or begins with a slash. -/
theorem namesFile_bundle {p : Path} (h : Path.ofString? resource = some p) : NamesFile (bundle resource) := by
  have hroot : Router.filesRoot.toList = "/clientlib".toList ++ ['/'] := by decide
  rw [NamesFile, hroot, toList_bundle]
  rcases Path.ofString?_eq_some h with ⟨hnil, -⟩ | ⟨kept, hlist, -, -⟩
  · exact ⟨'j', "sbundle.js".toList, by rw [hnil]; rfl⟩
  · have hne : kept ++ '/' :: "jsbundle.js".toList ≠ [] := by simp
    obtain ⟨c, more, hmore⟩ := List.exists_cons_of_ne_nil hne
    exact ⟨c, more, by rw [hlist, ← hmore]; simp⟩

end Address

theorem Asset.lastPart_append {before : List Char} {name : List Char} (h : '/' ∉ name) :
    lastPart (before ++ '/' :: name) = name := by
  have hreverse : (before ++ '/' :: name).reverse = name.reverse ++ '/' :: before.reverse := by simp
  have hslash : '/' ∉ name.reverse := fun hc => h (List.mem_reverse.mp hc)
  rw [lastPart, hreverse, Text.takeWhile_ne_append _ hslash, List.reverse_reverse]

/-- **The bundle is served** under its address, whatever the path of the list is. -/
theorem Asset.serve_bundle (resource : String) : serve serverFolder (Address.bundle resource)
    = { contentType := some "text/javascript", body := Text.encode bundleScript } := by
  have hname : (Address.bundle resource).toList.dropWhile (· == '/')
      = ("clientlib".toList ++ (Text.dropEndSlashes resource).toList) ++ '/' :: "jsbundle.js".toList := by
    have hhead : "/clientlib".toList = '/' :: 'c' :: "lientlib".toList := by decide
    rw [Address.toList_bundle, hhead]
    simp
  -- the whole path is not the name of a file, for none begins with `c`
  have hne : ∀ name : String, name.toList.head? ≠ some 'c' →
      String.ofList (("clientlib".toList ++ (Text.dropEndSlashes resource).toList)
        ++ '/' :: "jsbundle.js".toList) ≠ name := by
    rintro name hhead rfl
    have hfirst : "clientlib".toList = 'c' :: "lientlib".toList := by decide
    rw [String.toList_ofList, hfirst] at hhead
    exact hhead rfl
  have hwhole : (serverFolder.get? (String.ofList (("clientlib".toList
      ++ (Text.dropEndSlashes resource).toList) ++ '/' :: "jsbundle.js".toList))).isSome = false := by
    rw [get?_serverFolder, if_neg (hne _ (by decide)), if_neg (hne _ (by decide))]
    rfl
  have hlast : '/' ∉ "jsbundle.js".toList := by decide
  rw [serve, hname, hwhole, if_neg Bool.false_ne_true, lastPart_append hlast, String.ofList_toList, response,
    get?_serverFolder, if_neg (by decide), if_pos rfl, contentType_bundle]

namespace Router

variable {r : Repository} {target path document : String}

/-- **The link to the bundle works** in every page that is answered. -/
theorem bundle_served (htarget : Uri.path? target = some path) (hread : read r path = .html document) :
    (∃ src, '"' ∉ src.toList ∧ Markup.unescape src = Address.bundle path
        ∧ ("<script type=\"module\" src=\"" ++ src ++ "\"></script>").toList <:+: document.toList)
      ∧ isFilePath (Address.bundle path) = true
      ∧ Request.make? (Address.bundle path)
        = (if Uri.maxBytes < (Address.bundle path).utf8ByteSize then none else some { path := Address.bundle path })
      ∧ respond r { path := Address.bundle path }
        = ({ contentType := some "text/javascript", body := Text.encode bundleScript }, r) := by
  obtain ⟨-, m, hm, rfl⟩ := read_eq_html_iff.mp hread
  obtain ⟨p, hp, -⟩ := Repository.model_eq_ok hm
  have hfile := (isFilePath_iff _).mpr (Address.namesFile_bundle hp)
  refine ⟨⟨Markup.escape (Address.bundle path), Markup.not_mem_escape (by decide) _, Markup.unescape_escape _, ?_⟩,
    hfile, ?_, ?_⟩
  · have hslot := pieces_pageTemplate.2 .bundle (Slot.mem_all _)
    have hsettled := settled_infix hslot (toList_fill_pageTemplate ⟨path, m⟩)
    rw [settled_of_ne _ (by decide)] at hsettled
    exact hsettled
  · have hslash : (Address.bundle path).toList.head? = some '/' := by
      rw [Address.toList_bundle]
      rfl
    exact Request.make?_get hslash (Address.isPathChar_bundle (Uri.isPathChar_of_path? htarget))
  · rw [respond, if_pos hfile]
    show (Asset.serve serverFolder (Address.bundle path), r) = _
    rw [Asset.serve_bundle]

/-- A list with the name of the files: its page is asked for with a slash at the end and a query behind it, and
    the link in that page goes through the name twice. -/
theorem bundle_served_under_files :
    let r := (({} : Repository).seed "/clientlib" "Files" []).2
    ∃ document, Uri.path? "/clientlib/?x#y" = some "/clientlib/"
      ∧ (respond r { path := "/clientlib/" }).1 = .html document
      ∧ Address.bundle "/clientlib/" = "/clientlib/clientlib/jsbundle.js"
      ∧ Request.make? "/clientlib/clientlib/jsbundle.js" = some { path := "/clientlib/clientlib/jsbundle.js" }
      ∧ respond r { path := "/clientlib/clientlib/jsbundle.js" }
        = ({ contentType := some "text/javascript", body := Text.encode bundleScript }, r) := by
  intro r
  have htarget : Uri.path? "/clientlib/?x#y" = some "/clientlib/" := by decide +kernel
  have hmodel : r.model "/clientlib/" = .ok { title := "Files" } := by rfl
  have hread : read r "/clientlib/" = .html (Page.fill ⟨"/clientlib/", { title := "Files" }⟩ pageTemplate) :=
    read_eq_html_iff.mpr ⟨by decide, _, hmodel, rfl⟩
  have haddress : Address.bundle "/clientlib/" = "/clientlib/clientlib/jsbundle.js" := by decide +kernel
  obtain ⟨-, -, hrequest, hresponse⟩ := bundle_served htarget hread
  rw [haddress] at hrequest hresponse
  exact ⟨_, htarget, respond_eq_html_iff.mpr ⟨by decide, hread⟩, haddress,
    hrequest.trans (if_neg (by decide +kernel)), hresponse⟩

end Router

end TodoSite
