/-
  The markup of a list cannot be spoofed.

  1. **The steps** (`appSteps`) — which texts and tags the markup of a list is made of.  The path, the title
     and what an item is called stand in it as a text or a value; all the rest is fixed.  The markup is what
     these steps are written as (`toList_appHtml`).

  2. **Its parts** (`parts_appHtml`) — so a reader of markup gets just these texts and tags: what a person has
     written is one part in its place, with the same tags around it, whatever characters it is made of.

  3. **Nothing is lost** (`appParts_inj`) — the path, the title and the entries can be told from the parts.

  4. **Rows** (`occurrences_appHtml`) — there is a `<li` for each item, and no other one.
-/
import TodoSite.Proofs.Markup.Parts
import TodoSite.Proofs.Text.Replace
import TodoSite.Proofs.TodoList

namespace TodoSite.Markup

open Text (occurrences)

/-! ## The steps -/

/-- The steps of a row. -/
def rowSteps (e : Entry) : List Step :=
  [{ tag := "li style=",
     values := [(if e.2.2 then "text-decoration:line-through" else "text-decoration:none", "")] },
    { text := e.2.1 ++ " ", tag := "a href=", values := [("#_" ++ e.1, "")] },
    { text := if e.2.2 then "Done" else "Not Done", tag := "/a" }, { tag := "/li" }]

/-- The steps before the rows. -/
def headSteps (resource title : String) : List Step :=
  [{ tag := "div id=", values := [(rootId, " data-resource-path="), (resource, "")] }, { tag := "div" },
    { tag := "header class=", values := [("App-header", "")] },
    { tag := "h1 class=", values := [(titleClass, "")] }, { text := title, tag := "/h1" }, { tag := "/header" },
    { tag := "p class=", values := [("App-intro", "")] }, { text := introText, tag := "/p" }, { tag := "div" },
    { tag := "ul" }]

/-- The steps behind the rows. -/
def footSteps : List Step :=
  [{ tag := "/ul" }, { tag := "div" }, { tag := "form" },
    { tag := "input type=", values := [("text", " name="), ("name", "/")] }, { tag := "button" },
    { text := "Add", tag := "/button" }, { tag := "/form" }, { tag := "/div" }, { tag := "/div" },
    { tag := "/div" }, { tag := "/div" }]

/-- The steps of the markup of a list. -/
def appSteps (resource title : String) (es : List Entry) : List Step :=
  headSteps resource title ++ (es.flatMap rowSteps ++ footSteps)

/-- The parts of the markup of a list. -/
def appParts (resource title : String) (es : List Entry) : List Part :=
  (appSteps resource title es).flatMap Step.parts ++ [.text ""]

/-! ## How they are written -/

theorem escape_append (s t : String) : escape (s ++ t) = escape s ++ escape t := by
  rw [escape, String.toList_append, List.flatMap_append, String.ofList_append]
  rfl

/-- The texts of a row are variables here, for it takes Lean long to compare fixed ones. -/
theorem write_row {style name shown target label : String} (hstyle : escape style = style)
    (hshown : escape shown = escape name ++ " ") (hlabel : escape label = label) :
    ([{ tag := "li style=", values := [(style, "")] }, { text := shown, tag := "a href=", values := [(target, "")] },
        { text := label, tag := "/a" }, { tag := "/li" }] : List Step).flatMap Step.write
      = ("<li style=\"" ++ style ++ "\">" ++ escape name ++ " <a href=\"" ++ escape target ++ "\">" ++ label
        ++ "</a></li>").toList := by
  have hnone : escape "" = "" := by decide
  simp [Step.write, Step.writeValues, hnone, hstyle, hshown, hlabel]

theorem toList_rowHtml (item : Item) :
    (rowHtml item.row).toList = (rowSteps item.entry).flatMap Step.write := by
  have hopening : ∀ done : Bool, "<li style=\"text-decoration:" ++ (if done then "line-through" else "none") ++ "\">"
      = "<li style=\"" ++ (if done then "text-decoration:line-through" else "text-decoration:none") ++ "\">" := by
    decide +kernel
  have hstyle : ∀ done : Bool, escape (if done then "text-decoration:line-through" else "text-decoration:none")
      = if done then "text-decoration:line-through" else "text-decoration:none" := by
    decide +kernel
  have hlabel : ∀ done : Bool, escape (if done then "Done" else "Not Done") = if done then "Done" else "Not Done" := by
    decide +kernel
  have hspace : escape " " = " " := by decide
  have hshown : escape (item.name ++ " ") = escape item.name ++ " " :=
    (escape_append item.name " ").trans (congrArg (escape item.name ++ ·) hspace)
  have hrow : rowHtml item.row
      = "<li style=\"text-decoration:" ++ (if item.done then "line-through" else "none") ++ "\">"
        ++ escape item.name ++ " <a href=\"" ++ escape ("#_" ++ item.key) ++ "\">"
        ++ (if item.done then "Done" else "Not Done") ++ "</a></li>" := rfl
  rw [hrow, hopening item.done]
  exact (write_row (hstyle item.done) hshown (hlabel item.done)).symm

theorem write_head (root top intro resource title : String) (hroot : escape root = root)
    (htop : escape top = top) (hintro : escape intro = intro) :
    ([{ tag := "div id=", values := [(root, " data-resource-path="), (resource, "")] }, { tag := "div" },
        { tag := "header class=", values := [("App-header", "")] },
        { tag := "h1 class=", values := [(top, "")] }, { text := title, tag := "/h1" }, { tag := "/header" },
        { tag := "p class=", values := [("App-intro", "")] }, { text := intro, tag := "/p" }, { tag := "div" },
        { tag := "ul" }] : List Step).flatMap Step.write
      = ("<div id=\"" ++ root ++ "\" data-resource-path=\"" ++ escape resource
        ++ "\"><div><header class=\"App-header\"><h1 class=\"" ++ top ++ "\">" ++ escape title
        ++ "</h1></header><p class=\"App-intro\">" ++ intro ++ "</p><div><ul>").toList := by
  have hnone : escape "" = "" := by decide
  have hheader : escape "App-header" = "App-header" := by decide
  have hline : escape "App-intro" = "App-intro" := by decide
  simp [Step.write, Step.writeValues, hnone, hroot, htop, hintro, hheader, hline]

/-- The rows stand between a head and a foot. -/
theorem toList_frame (head rows label : String) :
    (head ++ "</p>" ++ ("<div><ul>" ++ rows
        ++ "</ul><div><form><input type=\"text\" name=\"name\"/><button>" ++ label
        ++ "</button></form></div></div>") ++ "</div></div>").toList
      = (head ++ "</p><div><ul>").toList ++ (rows.toList
        ++ ("</ul><div><form><input type=\"text\" name=\"name\"/><button>" ++ label
          ++ "</button></form></div></div></div></div>").toList) := by
  simp

/-- **The markup of a list** is what its steps are written as. -/
theorem toList_appHtml (resource title : String) (list : TodoList) :
    (appHtml resource title list.view).toList
      = (appSteps resource title (list.items.map Item.entry)).flatMap Step.write := by
  have hhead := write_head rootId titleClass introText resource title (by decide +kernel) (by decide +kernel)
    (by decide +kernel)
  have hrows : (String.join (list.view.rows.map rowHtml)).toList
      = ((list.items.map Item.entry).flatMap rowSteps).flatMap Step.write := by
    rw [String.toList_join, TodoList.view]
    induction list.items with
    | nil => rfl
    | cons item items ih =>
      show (rowHtml item.row).toList ++ _ = (rowSteps item.entry ++ _).flatMap Step.write
      rw [List.flatMap_append, ← toList_rowHtml]
      exact congrArg (_ ++ ·) ih
  have hfoot : ("</ul><div><form><input type=\"text\" name=\"name\"/><button>" ++ "Add"
      ++ "</button></form></div></div></div></div>").toList = footSteps.flatMap Step.write := by
    decide +kernel
  have happ : appHtml resource title list.view
      = "<div id=\"" ++ rootId ++ "\" data-resource-path=\"" ++ escape resource
        ++ "\"><div><header class=\"App-header\"><h1 class=\"" ++ titleClass ++ "\">" ++ escape title
        ++ "</h1></header><p class=\"App-intro\">" ++ introText ++ "</p>"
        ++ ("<div><ul>" ++ String.join (list.view.rows.map rowHtml)
          ++ "</ul><div><form><input type=\"text\" name=\"name\"/><button>" ++ "Add"
          ++ "</button></form></div></div>") ++ "</div></div>" := rfl
  rw [happ, toList_frame, ← hhead, hrows, hfoot, appSteps, List.flatMap_append, List.flatMap_append]
  rfl

/-! ## Its parts -/

/-- The tags are the same whatever the texts are. -/
theorem raws_appSteps (resource title : String) (es : List Entry) :
    (appSteps resource title es).map Step.raws
      = (headSteps "" "" ++ (es.flatMap (fun _ => rowSteps ("", "", false)) ++ footSteps)).map Step.raws := by
  have hrow : ∀ e : Entry, (rowSteps e).map Step.raws = (rowSteps ("", "", false)).map Step.raws := fun _ => rfl
  have hrows : (es.flatMap rowSteps).map Step.raws
      = (es.flatMap fun _ => rowSteps ("", "", false)).map Step.raws := by
    rw [List.map_flatMap, List.map_flatMap, funext hrow]
  rw [appSteps, List.map_append, List.map_append, List.map_append, List.map_append, hrows]
  rfl

theorem isBare_appSteps (resource title : String) (es : List Entry) :
    ∀ step ∈ appSteps resource title es, step.isBare = true := by
  have hhead : (headSteps "" "").all Step.isBare = true := by decide +kernel
  have hrow : (rowSteps ("", "", false)).all Step.isBare = true := by decide +kernel
  have hfoot : footSteps.all Step.isBare = true := by decide +kernel
  intro step hstep
  have hmem : step.raws ∈ (appSteps resource title es).map Step.raws := List.mem_map_of_mem hstep
  rw [raws_appSteps] at hmem
  obtain ⟨other, hother, hraws⟩ := List.mem_map.mp hmem
  rw [Step.isBare, ← hraws]
  rcases List.mem_append.mp hother with h | h
  · exact List.all_eq_true.mp hhead other h
  rcases List.mem_append.mp h with h | h
  · obtain ⟨_, -, h⟩ := List.mem_flatMap.mp h
    exact List.all_eq_true.mp hrow other h
  · exact List.all_eq_true.mp hfoot other h

/-- **The parts of the markup**: what a person has written is one part in its place, with the same tags around
    it whatever characters it is made of. -/
theorem parts_appHtml (resource title : String) (list : TodoList) :
    parts (appHtml resource title list.view) = appParts resource title (list.items.map Item.entry) := by
  have hmarkup : appHtml resource title list.view
      = String.ofList ((appSteps resource title (list.items.map Item.entry)).flatMap Step.write) := by
    rw [← toList_appHtml, String.ofList_toList]
  rw [hmarkup, parts_write (isBare_appSteps resource title _), appParts]

/-! ## Nothing is lost -/

theorem parts_row (e : Entry) : (rowSteps e).flatMap Step.parts
    = [.text "", .tag "li style=",
      .value (if e.2.2 then "text-decoration:line-through" else "text-decoration:none"), .tag "",
      .text (e.2.1 ++ " "), .tag "a href=", .value ("#_" ++ e.1), .tag "",
      .text (if e.2.2 then "Done" else "Not Done"), .tag "/a", .text "", .tag "/li"] := rfl

/-- The parts of a row tell its entry. -/
theorem parts_row_inj {e e' : Entry} (h : (rowSteps e).flatMap Step.parts = (rowSteps e').flatMap Step.parts) :
    e = e' := by
  obtain ⟨key, name, done⟩ := e
  obtain ⟨key', name', done'⟩ := e'
  rw [parts_row, parts_row] at h
  simp only [List.cons.injEq, Part.value.injEq, Part.text.injEq, true_and, and_true] at h
  obtain ⟨-, hname, hkey, hlabel⟩ := h
  have hlabels : ∀ a b : Bool, (if a then "Done" else "Not Done") = (if b then "Done" else "Not Done") → a = b := by
    decide
  rw [(String.append_left_inj " ").mp hname, (String.append_right_inj "#_").mp hkey, hlabels done done' hlabel]

/-- The rows tell the entries, and where they end. -/
theorem parts_rows_inj {es es' : List Entry} {more : List Part}
    (h : (es.flatMap rowSteps).flatMap Step.parts ++ (footSteps.flatMap Step.parts ++ more)
      = (es'.flatMap rowSteps).flatMap Step.parts ++ (footSteps.flatMap Step.parts ++ more)) : es = es' := by
  -- the first tag of a row is another one than the first tag behind the rows
  have hfirst : ∀ (e : Entry) (rest : List Part),
      (rowSteps e).flatMap Step.parts ++ rest ≠ footSteps.flatMap Step.parts ++ more := by
    intro e rest he
    have hsecond : (Part.tag "li style=") = .tag "/ul" :=
      Option.some.inj (congrArg (fun parts : List Part => parts[1]?) he)
    exact absurd hsecond (by decide)
  induction es generalizing es' with
  | nil =>
    cases es' with
    | nil => rfl
    | cons e' es' =>
      rw [List.flatMap_cons, List.flatMap_append, List.append_assoc] at h
      exact absurd h.symm (hfirst e' _)
  | cons e es ih =>
    rw [List.flatMap_cons, List.flatMap_append, List.append_assoc] at h
    cases es' with
    | nil => exact absurd h (hfirst e _)
    | cons e' es' =>
      rw [List.flatMap_cons, List.flatMap_append, List.append_assoc] at h
      obtain ⟨hrow, hrows⟩ := List.append_inj h rfl
      rw [parts_row_inj hrow, ih hrows]

/-- **Nothing is lost**: the path, the title and the entries can be told from the parts. -/
theorem appParts_inj {resource resource' title title' : String} {es es' : List Entry}
    (h : appParts resource title es = appParts resource' title' es') :
    resource = resource' ∧ title = title' ∧ es = es' := by
  rw [appParts, appParts, appSteps, appSteps, List.flatMap_append, List.flatMap_append, List.flatMap_append,
    List.flatMap_append, List.append_assoc, List.append_assoc, List.append_assoc, List.append_assoc] at h
  obtain ⟨hhead, hrows⟩ := List.append_inj h rfl
  have hresource : Part.value resource = .value resource' :=
    Option.some.inj (congrArg (fun parts : List Part => parts[4]?) hhead)
  have htitle : Part.text title = .text title' :=
    Option.some.inj (congrArg (fun parts : List Part => parts[16]?) hhead)
  exact ⟨Part.value.inj hresource, Part.text.inj htitle, parts_rows_inj hrows⟩

/-! ## Rows -/

/-- **There is a `<li` for each item**, and no other one. -/
theorem occurrences_appHtml (resource title : String) (list : TodoList) :
    occurrences "<li".toList (appHtml resource title list.view).toList = list.items.length := by
  have hname : ∀ c ∈ ['l', 'i'], c ∉ delimiters := by simp [delimiters]
  have hcount := occurrences_write (isBare_appSteps resource title (list.items.map Item.entry)) hname
  have hhead : ((headSteps "" "").map Step.tag).countP (fun tag => ['l', 'i'].isPrefixOf tag.toList) = 0 := by
    decide +kernel
  have hrow : ((rowSteps ("", "", false)).map Step.tag).countP (fun tag => ['l', 'i'].isPrefixOf tag.toList) = 1 := by
    decide +kernel
  have hfoot : (footSteps.map Step.tag).countP (fun tag => ['l', 'i'].isPrefixOf tag.toList) = 0 := by
    decide +kernel
  have hrows : ∀ es : List Entry,
      ((es.flatMap rowSteps).map Step.tag).countP (fun tag => ['l', 'i'].isPrefixOf tag.toList) = es.length := by
    intro es
    induction es with
    | nil => rfl
    | cons e es ih =>
      have htags : (rowSteps e).map Step.tag = (rowSteps ("", "", false)).map Step.tag := rfl
      rw [List.flatMap_cons, List.map_append, List.countP_append, ih, htags, hrow, List.length_cons, Nat.add_comm]
  have htags : (headSteps resource title).map Step.tag = (headSteps "" "").map Step.tag := rfl
  rw [toList_appHtml]
  refine hcount.trans ?_
  rw [appSteps, List.map_append, List.map_append, List.countP_append, List.countP_append, htags, hhead, hrows, hfoot,
    List.length_map, Nat.zero_add, Nat.add_zero]

/-- **The markup of a list cannot be spoofed.**  It has a `<li` for each item and no other one; it tells the
    path, the title and the entries; an escaped text can be read back and holds no delimiter; and for a reader
    of markup the tags are the same whatever characters the texts are made of. -/
theorem appHtml_unspoofed (resource title : String) (list : TodoList) :
    occurrences "<li".toList (appHtml resource title list.view).toList = list.items.length
      ∧ (∀ resource' title' (list' : TodoList),
          appHtml resource title list.view = appHtml resource' title' list'.view →
            resource = resource' ∧ title = title' ∧ list.items.map Item.entry = list'.items.map Item.entry)
      ∧ (∀ text, unescape (escape text) = text ∧ ∀ c ∈ (escape text).toList, c ∉ delimiters)
      ∧ parts (appHtml resource title list.view) = appParts resource title (list.items.map Item.entry) := by
  refine ⟨occurrences_appHtml resource title list, fun resource' title' list' h => ?_, fun text => ?_,
    parts_appHtml resource title list⟩
  · refine appParts_inj ?_
    rw [← parts_appHtml, ← parts_appHtml, h]
  · exact ⟨unescape_escape text, fun c hc hd => not_mem_escape hd text hc⟩

end TodoSite.Markup
