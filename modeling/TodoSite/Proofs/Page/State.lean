/-
  The state that a page carries.

  1. **The document** — every content but the state is foreign to the comments of the slots, so each
     slot ends up with its content; only in the state the comment of the last slot is filled as well
     (`Page.settled`, `toList_fill`).

  2. **The condition** (`Model.Unmarked`) — the state stays as it is just when no string of the model
     holds that comment.

  3. **What the browser makes of it** (`Page.CarriedBy`) — where the state stays as it is, the browser
     reads the model from it and shows what the server has rendered (`carriedBy_iff_unmarked`).

  CRUX.  Where the comment stands in the state, the text before it is the same as it should be, and
  then `!` should come where `s` does.  So the text that should be there is not even the beginning of
  what is (`unmarked_of_prefix`), wherever it may end.
-/
import TodoSite.Browser.Document
import TodoSite.Proofs.Markup.Escape
import TodoSite.Proofs.Model.Json
import TodoSite.Proofs.Page.Template
import TodoSite.Proofs.Text.Utf8

namespace TodoSite

open Text Markup

/-! ## Contents that are foreign -/

theorem foreign_toList_append {s t : String} (hs : foreign s.toList = true)
    (ht : foreign t.toList = true) : foreign (s ++ t).toList = true := by
  rw [String.toList_append]
  exact foreign_append hs ht

theorem foreign_escape (text : String) : foreign (escape text).toList = true :=
  foreign_of_not_mem (not_mem_escape (by decide) text)

theorem foreign_rowHtml (item : Item) : foreign (rowHtml item.row).toList = true := by
  -- what is fixed holds no comment, and what comes from the item is escaped
  have hstyle : foreign (if item.row.struck then "line-through" else "none").toList = true := by
    split <;> decide
  have hlabel : foreign item.row.label.toList = true := by
    show foreign (if item.done then "Done" else "Not Done").toList = true
    split <;> decide
  have hname : foreign ("<li style=\"text-decoration:"
      ++ (if item.row.struck then "line-through" else "none") ++ "\">"
      ++ escape item.row.name).toList = true :=
    foreign_toList_append (foreign_toList_append (foreign_toList_append (by decide) hstyle)
      (by decide)) (foreign_escape _)
  exact foreign_toList_append (foreign_toList_append (foreign_toList_append (foreign_toList_append
    (foreign_toList_append hname (by decide)) (foreign_escape _)) (by decide)) hlabel) (by decide)

theorem foreign_listHtml (list : TodoList) : foreign (listHtml list.view).toList = true := by
  have hrows : foreign (String.join (list.view.rows.map rowHtml)).toList = true := by
    rw [String.toList_join, TodoList.view]
    induction list.items with
    | nil => decide
    | cons item items ih => exact foreign_append (foreign_rowHtml item) ih
  have hlabel : foreign list.view.submitLabel.toList = true := by
    show foreign "Add".toList = true
    decide
  exact foreign_toList_append (foreign_toList_append (foreign_toList_append
    (foreign_toList_append (by decide) hrows) (by decide)) hlabel) (by decide)

theorem foreign_appHtml (resource title : String) (list : TodoList) :
    foreign (appHtml resource title list.view).toList = true := by
  have hroot : foreign ("<div id=\"" ++ rootId ++ "\" data-resource-path=\"" ++ escape resource
      ++ "\"><div><header class=\"App-header\"><h1 class=\"").toList = true :=
    foreign_toList_append (foreign_toList_append (by decide) (foreign_escape _)) (by decide)
  have htitle := foreign_toList_append (foreign_toList_append hroot
    (by decide : foreign titleClass.toList = true)) (by decide : foreign "\">".toList = true)
  have hintro := foreign_toList_append (foreign_toList_append htitle (foreign_escape title))
    (by decide : foreign "</h1></header><p class=\"App-intro\">".toList = true)
  exact foreign_toList_append (foreign_toList_append (foreign_toList_append
    (foreign_toList_append hintro (by decide)) (by decide)) (foreign_listHtml list)) (by decide)

variable (page : Page)

/-- **Every content but the state** is foreign. -/
theorem foreign_content {slot : Slot} (h : slot ≠ .state) :
    foreign (page.content slot).toList = true := by
  cases slot with
  | title => exact foreign_escape _
  | app => exact foreign_appHtml _ _ _
  | state => exact absurd rfl h
  | bundle =>
    exact foreign_toList_append (foreign_toList_append (by decide) (foreign_escape _)) (by decide)

/-! ## The document -/

/-- The script that loads the bundle, in the place of its comment. -/
def Page.withBundle (page : Page) (cs : List Char) : List Char :=
  replaceFrom Slot.bundle.comment (page.content .bundle).toList 0 cs

/-- The text of the state. -/
def Page.stateText (page : Page) : List Char := (scriptText page.model.toJson).toList

/-- What stands in the slots in the end. -/
def Page.settled (page : Page) : Slot → List Char
  | .state => stateOpening.toList ++ (page.withBundle page.stateText ++ scriptClosing.toList)
  | slot => (page.content slot).toList

theorem toList_content_state :
    (page.content .state).toList
      = stateOpening.toList ++ (page.stateText ++ scriptClosing.toList) := by
  show (stateOpening ++ scriptText page.model.toJson ++ scriptClosing).toList = _
  rw [String.toList_append, String.toList_append, List.append_assoc]
  rfl

theorem toList_content_bundle :
    ∃ cs, (page.content .bundle).toList = '<' :: 's' :: cs := by
  have hopening : "<script type=\"module\" src=\"".toList
      = '<' :: 's' :: "cript type=\"module\" src=\"".toList := by
    decide
  have hcontent : page.content .bundle = "<script type=\"module\" src=\""
      ++ escape (Address.bundle page.resource) ++ "\"></script>" := rfl
  rw [hcontent, String.toList_append, String.toList_append, List.append_assoc, hopening,
    List.cons_append, List.cons_append]
  exact ⟨_, rfl⟩

theorem settled_of_ne {slot : Slot} (h : slot ≠ .state) :
    page.settled slot = (page.content slot).toList := by
  cases slot with
  | state => exact absurd rfl h
  | title => rfl
  | app => rfl
  | bundle => rfl

theorem withBundle_stateText_append (rest : List Char) :
    page.withBundle (page.stateText ++ rest)
      = page.withBundle page.stateText ++ page.withBundle rest := by
  have hcomment : Slot.bundle.comment = '<' :: "!--TODO_BUNDLE-->".toList := by decide
  have hwrite := Json.replaceFrom_write (q := embedded) (Json.tokens_lack page.model.toJson)
    (by decide : '"' ∉ '<' :: "!--TODO_BUNDLE-->".toList) (page.content .bundle).toList
  have hall := hwrite rest
  have hend := hwrite []
  rw [List.append_nil, replaceFrom, List.append_nil] at hend
  rw [Page.withBundle, Page.withBundle, Page.withBundle, Page.stateText, toList_scriptText,
    hcomment, hall, hend]

theorem withBundle_content_state_append (rest : List Char) :
    page.withBundle ((page.content .state).toList ++ rest)
      = page.settled .state ++ page.withBundle rest := by
  have hopening : apart Slot.bundle.comment stateOpening.toList = true := by decide
  have hclosing : apart Slot.bundle.comment scriptClosing.toList = true := by decide
  have hrest : page.withBundle (scriptClosing.toList ++ rest)
      = scriptClosing.toList ++ page.withBundle rest := replaceFrom_append hclosing _ _
  rw [toList_content_state, List.append_assoc, List.append_assoc, Page.settled, List.append_assoc,
    List.append_assoc, ← hrest, ← withBundle_stateText_append]
  exact replaceFrom_append hopening _ _

/-- A slot that is filled before the state has been. -/
theorem replaceFrom_next {ps : List Piece} (hps : ∀ p ∈ ps, p.isForeign = true) {slot : Slot}
    {done : List Slot} (hnew : slot ∉ done) (hstate : .state ∉ done) :
    replaceFrom slot.comment (page.content slot).toList 0
        (ps.flatMap (Piece.write (page.filled done)))
      = ps.flatMap (Piece.write (page.filled (slot :: done))) := by
  refine replaceFrom_pieces hps (replaceFrom_filled hnew fun s hs => ?_)
  exact apart_of_foreign (foreign_content page fun he => hstate (he ▸ hs)) slot

/-- The slot that is filled last. -/
theorem withBundle_pieces {ps : List Piece} (hps : ∀ p ∈ ps, p.isForeign = true) :
    page.withBundle (ps.flatMap (Piece.write (page.filled [.state, .app, .title])))
      = ps.flatMap (Piece.write page.settled) := by
  refine replaceFrom_pieces hps fun s rest => ?_
  cases s with
  | state => exact withBundle_content_state_append page rest
  | title => exact replaceFrom_append (apart_of_foreign (foreign_content page (by decide)) _) _ _
  | app => exact replaceFrom_append (apart_of_foreign (foreign_content page (by decide)) _) _ _
  | bundle => exact replaceFrom_self (by decide) _ _

/-- **The document** from a template whose fixed parts are foreign: each slot has its content, and the
    bundle's comment gives way inside the state too. -/
theorem toList_fill {template : String} {ps : List Piece}
    (hps : ∀ p ∈ ps, p.isForeign = true)
    (htemplate : template.toList = ps.flatMap (Piece.write Slot.comment)) :
    (page.fill template).toList = ps.flatMap (Piece.write page.settled) := by
  have hunfilled : Slot.comment = page.filled [] := by
    funext slot
    exact (if_neg List.not_mem_nil).symm
  -- the slots in their order, from the last one back
  rw [← withBundle_pieces page hps, ← replaceFrom_next page hps (by decide) (by decide),
    ← replaceFrom_next page hps (by decide) (by decide),
    ← replaceFrom_next page hps (by decide) (by decide), ← hunfilled, ← htemplate]
  simp only [Page.fill, Slot.all, List.foldl_cons, List.foldl_nil, replaceAll, String.toList_ofList]
  rfl

/-! ## The condition -/

/-- Whether no string of the model holds the comment of the bundle. -/
def Model.Unmarked (model : Model) : Prop :=
  ∀ s ∈ model.texts, ¬ Slot.bundle.comment <:+: s.toList

theorem unmarked_iff : page.model.Unmarked ↔ ¬ Slot.bundle.comment <:+: page.stateText := by
  have hcomment : Slot.bundle.comment = '<' :: "!--TODO_BUNDLE-->".toList := by decide
  have hplain : ∀ d ∈ '<' :: "!--TODO_BUNDLE-->".toList, Json.isPlain d = true :=
    List.all_eq_true.mp (by decide)
  have hlack : ∀ s ∈ memberNames, '<' ∉ s.toList := by decide
  have hnames : ∀ s ∈ memberNames, ¬ '<' :: "!--TODO_BUNDLE-->".toList <:+: s.toList :=
    fun s hs hinfix => hlack s hs (List.IsInfix.subset hinfix List.mem_cons_self)
  rw [Model.Unmarked, hcomment, Page.stateText, infix_scriptText_iff _ hplain,
    page.model.exists_text_iff hnames]
  exact ⟨fun h ⟨s, hs, hinfix⟩ => h s hs hinfix, fun h s hs hinfix => h ⟨s, hs, hinfix⟩⟩

theorem withBundle_of_unmarked (h : page.model.Unmarked) :
    page.withBundle page.stateText = page.stateText :=
  replaceFrom_of_not_infix ((unmarked_iff page).mp h)

/-- **Where the state is changed**, what should be there is not even the beginning of what is. -/
theorem unmarked_of_prefix {rest : List Char}
    (h : page.stateText <+: page.withBundle page.stateText ++ rest) : page.model.Unmarked := by
  rw [unmarked_iff]
  intro hinfix
  obtain ⟨before, after, htext, hreplace⟩ :=
    replaceFrom_of_infix (by decide) hinfix (page.content .bundle).toList
  rw [Page.withBundle, hreplace, htext, List.append_assoc, List.prefix_append_right_inj] at h
  -- both go on with `<`, and then differ
  have hcomment : Slot.bundle.comment = '<' :: '!' :: "--TODO_BUNDLE-->".toList := by decide
  obtain ⟨cs, hcs⟩ := toList_content_bundle page
  rw [hcomment, hcs] at h
  have hsecond := (List.cons_prefix_cons.mp h).2
  exact absurd (List.cons_prefix_cons.mp hsecond).1 (by decide)

/-! ## What the document carries -/

/-- The text between the beginning of the element with the state and the next end of a script. -/
def carriedState (document : String) : Option String :=
  between? stateOpening scriptClosing document

/-- What should be true of a page and its document. -/
structure Page.CarriedBy (page : Page) (document : String) : Prop where
  /-- The document carries the text of the model. -/
  text : carriedState document = some (scriptText page.model.toJson)
  /-- The model is read from it. -/
  read : (carriedState document).bind (fun text => (Client.readModel text).toOption)
    = some page.model
  /-- A browser with the text in its document starts with the title and with the rows of which the
      document has the markup. -/
  shown : ∀ d : Browser.Document, d.state = carriedState document →
    ∃ state, d.state? page.resource = some state ∧ state.title = page.model.title
      ∧ (appHtml page.resource state.title state.view).toList <:+: document.toList

/-- Before the state, the document is foreign. -/
theorem foreign_settled {ps : List Piece} (hps : ∀ p ∈ ps, p.isForeign = true)
    (hstate : .slot .state ∉ ps) : foreign (ps.flatMap (Piece.write page.settled)) = true := by
  induction ps with
  | nil => exact (by decide : foreign [] = true)
  | cons p ps ih =>
    rw [List.mem_cons, not_or] at hstate
    refine foreign_append ?_ (ih (fun p' hp' => hps p' (List.mem_cons_of_mem _ hp')) hstate.2)
    cases p with
    | fixed cs => exact hps _ List.mem_cons_self
    | slot s =>
      have hs : s ≠ .state := fun he => hstate.1 (he ▸ rfl)
      rw [Piece.write, settled_of_ne page hs]
      exact foreign_content page hs

/-- Unchanged, the state too is what its slot is filled with. -/
theorem settled_of_unmarked (h : page.model.Unmarked) (slot : Slot) :
    page.settled slot = (page.content slot).toList := by
  by_cases hs : slot = .state
  · subst hs
    rw [Page.settled, withBundle_of_unmarked page h, toList_content_state]
  · exact settled_of_ne page hs

/-- Before the state, nothing has been changed. -/
theorem flatMap_settled_of_not_mem {ps : List Piece} (hstate : .slot .state ∉ ps) :
    ps.flatMap (Piece.write page.settled)
      = ps.flatMap (Piece.write fun slot => (page.content slot).toList) := by
  induction ps with
  | nil => rfl
  | cons p ps ih =>
    rw [List.mem_cons, not_or] at hstate
    rw [List.flatMap_cons, List.flatMap_cons, ih hstate.2]
    cases p with
    | fixed cs => rfl
    | slot s =>
      have hs : s ≠ .state := fun he => hstate.1 (he ▸ rfl)
      rw [Piece.write, settled_of_ne page hs]
      rfl

section Document

variable {page} {document : String} {ps front back : List Piece}

/-- What stands before, in and after the element with the state. -/
theorem flatMap_settled (hsplit : ps = front ++ .slot .state :: back) :
    ps.flatMap (Piece.write page.settled) = front.flatMap (Piece.write page.settled)
      ++ (stateOpening.toList ++ (page.withBundle page.stateText
        ++ (scriptClosing.toList ++ back.flatMap (Piece.write page.settled)))) := by
  rw [hsplit, List.flatMap_append, List.flatMap_cons, Piece.write, Page.settled,
    List.append_assoc, List.append_assoc]

theorem flatMap_content (hsplit : ps = front ++ .slot .state :: back) :
    ps.flatMap (Piece.write fun slot => (page.content slot).toList)
      = front.flatMap (Piece.write fun slot => (page.content slot).toList)
        ++ (stateOpening.toList ++ (page.stateText ++ (scriptClosing.toList
          ++ back.flatMap (Piece.write fun slot => (page.content slot).toList)))) := by
  rw [hsplit, List.flatMap_append, List.flatMap_cons, Piece.write, toList_content_state,
    List.append_assoc, List.append_assoc]

/-- What is carried is what stands before the first end of a script in what has become of the text. -/
theorem carriedState_eq (hps : ∀ p ∈ ps, p.isForeign = true) (hmem : .slot .state ∈ ps)
    (hdocument : document.toList = ps.flatMap (Piece.write page.settled)) :
    ∃ rest, carriedState document
      = (breakAt scriptClosing.toList (page.withBundle page.stateText
        ++ (scriptClosing.toList ++ rest))).map fun parts => String.ofList parts.1 := by
  obtain ⟨front, back, hsplit, hfront⟩ := List.eq_append_cons_of_mem hmem
  have hforeign : apart stateOpening.toList (front.flatMap (Piece.write page.settled)) = true := by
    refine apart_opening_of_foreign (foreign_settled page (fun p hp => hps p ?_) hfront)
    rw [hsplit]
    exact List.mem_append_left _ hp
  refine ⟨back.flatMap (Piece.write page.settled), ?_⟩
  rw [carriedState, between?, hdocument, flatMap_settled hsplit,
    breakAt_append (by decide) hforeign]

/-- **The text is carried** just when it has not been changed. -/
theorem carriedState_eq_iff (hps : ∀ p ∈ ps, p.isForeign = true) (hmem : .slot .state ∈ ps)
    (hdocument : document.toList = ps.flatMap (Piece.write page.settled)) :
    carriedState document = some (scriptText page.model.toJson) ↔ page.model.Unmarked := by
  obtain ⟨rest, hcarried⟩ := carriedState_eq hps hmem hdocument
  rw [hcarried]
  constructor
  · intro h
    obtain ⟨⟨text, after⟩, hparts, htext⟩ := Option.map_eq_some_iff.mp h
    have htext : text = page.stateText := by
      rw [Page.stateText, ← htext, String.toList_ofList]
    have hprefix := eq_append_of_breakAt hparts
    rw [htext] at hprefix
    exact unmarked_of_prefix page ⟨_, hprefix.symm⟩
  · intro h
    have hclosing : apart scriptClosing.toList page.stateText = true := apart_scriptText_closing _
    rw [withBundle_of_unmarked page h, breakAt_append (by decide) hclosing, Option.map_some,
      Page.stateText, String.ofList_toList]

/-- **One pass gives the same** just when the state has not been changed. -/
theorem flatMap_settled_eq_iff (hmem : .slot .state ∈ ps) :
    ps.flatMap (Piece.write page.settled)
        = ps.flatMap (Piece.write fun slot => (page.content slot).toList)
      ↔ page.model.Unmarked := by
  constructor
  · intro h
    obtain ⟨front, back, hsplit, hfront⟩ := List.eq_append_cons_of_mem hmem
    rw [flatMap_settled hsplit, flatMap_content hsplit, flatMap_settled_of_not_mem page hfront,
      List.append_cancel_left_eq, List.append_cancel_left_eq] at h
    exact unmarked_of_prefix page ⟨_, h.symm⟩
  · intro h
    rw [funext (settled_of_unmarked page h)]

/-- What stands in a slot stands in the document. -/
theorem settled_infix {slot : Slot} (hmem : .slot slot ∈ ps)
    (hdocument : document.toList = ps.flatMap (Piece.write page.settled)) :
    page.settled slot <:+: document.toList := by
  obtain ⟨front, back, hsplit⟩ := List.append_of_mem hmem
  rw [hdocument, hsplit, List.flatMap_append, List.flatMap_cons]
  exact List.infix_append_of_infix_right (List.prefix_append _ _).isInfix

/-- **What should be true of the document** is true just when the state has not been changed. -/
theorem carriedBy_iff_unmarked (hps : ∀ p ∈ ps, p.isForeign = true) (hstate : .slot .state ∈ ps)
    (happ : .slot .app ∈ ps) (hdocument : document.toList = ps.flatMap (Piece.write page.settled)) :
    page.CarriedBy document ↔ page.model.Unmarked := by
  have hcarried := carriedState_eq_iff hps hstate hdocument
  constructor
  · intro h
    exact hcarried.mp h.text
  · intro h
    have htext := hcarried.mpr h
    have hread : Client.readModel (scriptText page.model.toJson) = .ok page.model := by
      rw [Client.readModel, page.model.read_scriptText]
    have hmarkup : (page.content .app).toList <:+: document.toList := by
      have hsettled := settled_infix happ hdocument
      rwa [settled_of_ne page (by decide)] at hsettled
    refine ⟨htext, by rw [htext, Option.bind_some, hread]; rfl, fun d hd => ?_⟩
    refine ⟨.ofModel page.resource page.model, ?_, rfl, hmarkup⟩
    rw [Browser.Document.state?, hd, htext, Option.bind_some, hread]
    rfl

end Document

/-! ## The page of the server -/

theorem toList_lines (ls : List String) :
    (lines ls).toList = ls.flatMap fun l => l.toList ++ ['\n'] := by
  have hline : ∀ l : String, (l ++ "\n").toList = l.toList ++ ['\n'] := fun l =>
    String.toList_append
  rw [lines, String.toList_join, List.flatMap_map]
  exact congrArg (ls.flatMap ·) (funext hline)

/-- The template of the server has every slot, and what it has besides is foreign. -/
theorem pieces_pageTemplate :
    (∀ p ∈ pieces Slot.all pageTemplate.toList, p.isForeign = true)
      ∧ ∀ slot ∈ Slot.all, .slot slot ∈ pieces Slot.all pageTemplate.toList := by
  rw [pageTemplate, toList_lines]
  decide +kernel

theorem render_serverFolder :
    page.render serverFolder = .ok (page.fill pageTemplate) := by
  have hfile : serverFolder.get? "index.html" = some (encode pageTemplate) := by
    simp [Folder.get?, serverFolder]
  rw [Page.render, hfile]
  show Except.ok (page.fill (decodeLossy (encode pageTemplate))) = _
  rw [decodeLossy_encode]

theorem toList_fill_pageTemplate :
    (page.fill pageTemplate).toList
      = (pieces Slot.all pageTemplate.toList).flatMap (Piece.write page.settled) :=
  toList_fill page pieces_pageTemplate.1 (write_pieces Slot.all pageTemplate.toList).symm

theorem toList_fillAtOnce_pageTemplate :
    (page.fillAtOnce pageTemplate).toList = (pieces Slot.all pageTemplate.toList).flatMap
      (Piece.write fun slot => (page.content slot).toList) := by
  have hfill := page.fillFrom_pieces pieces_pageTemplate.1
  rw [write_pieces] at hfill
  rw [Page.fillAtOnce, String.toList_ofList, hfill]

/-- **The state in the server's page.**  There is always a page.  It carries the state of the model,
    the browser shows what the server has rendered, and the page is the template with its slots filled
    at once: each of these just when no string of the model holds the comment of the bundle. -/
theorem state_kept_iff (page : Page) :
    ∃ document, page.render serverFolder = .ok document
      ∧ (carriedState document = some (scriptText page.model.toJson) ↔ page.model.Unmarked)
      ∧ (page.CarriedBy document ↔ page.model.Unmarked)
      ∧ (document = page.fillAtOnce pageTemplate ↔ page.model.Unmarked) := by
  obtain ⟨hps, hslots⟩ := pieces_pageTemplate
  have hstate := hslots .state (Slot.mem_all _)
  have happ := hslots .app (Slot.mem_all _)
  have hdocument := toList_fill_pageTemplate page
  refine ⟨_, render_serverFolder page, carriedState_eq_iff hps hstate hdocument,
    carriedBy_iff_unmarked hps hstate happ hdocument, ?_⟩
  rw [← String.toList_inj, hdocument, toList_fillAtOnce_pageTemplate]
  exact flatMap_settled_eq_iff hstate

/-- A list that is called like the comment of the bundle. -/
def markedPage : Page :=
  { resource := "/l", model := { title := "<!--TODO_BUNDLE-->" } }

/-- **The state of that list** ends inside the title, where the script of the bundle has come in, and
    cannot be read. -/
theorem state_rewritten :
    ∃ document, markedPage.render serverFolder = .ok document
      ∧ carriedState document
        = some "\x7b\"title\":\"<script type=\"module\" src=\"/clientlib/l/jsbundle.js\">"
      ∧ carriedState document ≠ some (scriptText markedPage.model.toJson)
      ∧ (carriedState document).bind (fun text => (Client.readModel text).toOption) = none := by
  have hdocument := toList_fill_pageTemplate markedPage
  obtain ⟨rest, hcarried⟩ := carriedState_eq pieces_pageTemplate.1
    (pieces_pageTemplate.2 .state (Slot.mem_all _)) hdocument
  have htext : markedPage.withBundle markedPage.stateText
      = "\x7b\"title\":\"<script type=\"module\" src=\"/clientlib/l/jsbundle.js\">".toList
        ++ (scriptClosing.toList ++ "\",\"items\":[]\x7d".toList) := by
    decide +kernel
  have hclosing : apart scriptClosing.toList
      "\x7b\"title\":\"<script type=\"module\" src=\"/clientlib/l/jsbundle.js\">".toList = true := by
    decide +kernel
  rw [htext, List.append_assoc, List.append_assoc, breakAt_append (by decide) hclosing,
    Option.map_some, String.ofList_toList] at hcarried
  refine ⟨_, render_serverFolder markedPage, hcarried, ?_, ?_⟩
  · rw [hcarried]
    decide +kernel
  · rw [hcarried]
    decide +kernel

end TodoSite
