/-
  Lists that lie in one tree.

  A list may lie inside another one: it may be an item of it, or lie deeper, or be the very folder in which
  the other keeps its items.  A write of an item of one list still leaves the model of the other as it was
  (`model_undisturbed`), whether it finds the item, makes it, or makes the folder as well.

  CRUX.  The model of a list is made of one property of its node, of the list of children of its folder, and
  of the properties of these children (`modelAt_congr`).  The write makes the folder of its own list and the
  item in it, and sets properties of the item, none of which is a title.  So only two lists can be touched:
  the one with the same folder, and the one in whose folder the written list itself is kept as `items`, that
  is, whose folder the written list is.
-/
import TodoSite.Proofs.Repository.Effect
import TodoSite.Proofs.Repository.Export

namespace TodoSite.Repository

variable {r r' : Repository} {p q : Path} {key : String} {node node' : Node}

/-! ## What a model is made of -/

theorem exportedAt_congr
    (h : r'.propertiesAt ((itemsFolder p).child key) = r.propertiesAt ((itemsFolder p).child key)) :
    r'.exportedAt p key = r.exportedAt p key := by
  have hproperties : ∀ node? : Option Node, (node?.getD {}).properties = (node?.map Node.properties).getD [] := by
    intro node?
    cases node? with
    | none => rfl
    | some node => rfl
  have hsame : ((r'.get? ((itemsFolder p).child key)).getD {}).properties
      = ((r.get? ((itemsFolder p).child key)).getD {}).properties := by
    rw [hproperties, hproperties]
    exact congrArg (Option.getD · []) h
  simp only [exportedAt, itemAt, Node.text?, Node.bool?, hsame]

/-- **What a model is made of**: two trees in which it is the same have the same model. -/
theorem modelAt_congr (ht : IsTree r) (ht' : IsTree r')
    (htitle : node'.text? titleProperty = node.text? titleProperty)
    (hnames : r'.childNames (itemsFolder p) = r.childNames (itemsFolder p))
    (hitems : ∀ key ∈ r.childNames (itemsFolder p),
      r'.propertiesAt ((itemsFolder p).child key) = r.propertiesAt ((itemsFolder p).child key)) :
    r'.modelAt p node' = r.modelAt p node := by
  have hexported : (r'.modelAt p node').items = (r.modelAt p node).items := by
    rw [items_modelAt ht', items_modelAt ht, hnames]
    exact List.map_congr_left fun key hkey => exportedAt_congr (hitems key hkey)
  have htitles : (r'.modelAt p node').title = (r.modelAt p node).title :=
    congrArg (Option.getD · defaultTitle) htitle
  rw [Model.mk.injEq]
  exact ⟨htitles, hexported⟩

/-! ## What a write adds -/

/-- Above the folder of a stored list everything is stored. -/
theorem contains_of_mem_way_itemsFolder (ht : IsTree r) (hp : r.contains p = true)
    (h : q ∈ (itemsFolder p).way) (hne : q ≠ itemsFolder p) : r.contains q = true := by
  rw [Path.itemsFolder_eq] at h hne
  have hbase := (Path.mem_way_child.mp h).resolve_left hne
  split at hbase
  · exact ht.contains_of_mem_way ht.root hbase
  · exact ht.contains_of_mem_way hp hbase

/-- A folder that is a child of another one belongs to the list which is that other one. -/
theorem eq_of_child_eq_itemsFolder {name : String} (h : (itemsFolder q).child name = itemsFolder p) :
    p = itemsFolder q := by
  rw [Path.itemsFolder_eq p] at h
  split at h
  · -- no folder is the root
    have hroot := (Path.child.inj h).1
    rw [Path.itemsFolder_eq] at hroot
    cases hroot
  · exact (Path.child.inj h).1.symm

/-- The write of an item adds nothing to the folder of another list. -/
theorem childNames_put_apart (ht : IsTree r) (hp : r.contains p = true)
    (hfolders : itemsFolder p ≠ itemsFolder q) (hfolder : p ≠ itemsFolder q)
    (values : List (String × Value)) :
    (r.put ((itemsFolder p).child key) values).childNames (itemsFolder q) = r.childNames (itemsFolder q) := by
  rw [childNames_put_eq]
  refine childNames_ensure fun name hname => ?_
  rcases Path.mem_way_child.mp hname with he | hway
  · exact absurd (Path.child.inj he).1.symm hfolders
  · exact contains_of_mem_way_itemsFolder ht hp hway fun he => hfolder (eq_of_child_eq_itemsFolder he)

/-- The form of an item sets no title. -/
theorem text?_title_setting (item : Item) (node : Node) :
    (setting (itemValues item) node).text? titleProperty = node.text? titleProperty := by
  rw [Node.text?, get?_setting_itemValues, if_neg (by decide), if_neg (by decide), if_neg (by decide)]
  rfl

/-- The title of a stored list after the write of an item, also where the list is the item. -/
theorem text?_title_put (item : Item) (hnode : r.get? q = some node) :
    ∃ node', (r.put p (itemValues item)).get? q = some node'
      ∧ node'.text? titleProperty = node.text? titleProperty := by
  by_cases hq : q = p
  · subst hq
    refine ⟨setting (itemValues item) node, ?_, text?_title_setting item node⟩
    rw [get?_put, if_pos rfl, ensure_of_contains (contains_iff.mpr ⟨node, hnode⟩), hnode]
    rfl
  · have hproperties := properties_ensure (q := p) (contains_iff.mpr ⟨node, hnode⟩)
    rw [hnode, Option.map_some] at hproperties
    obtain ⟨node', hnode', hsame⟩ := Option.map_eq_some_iff.mp hproperties
    refine ⟨node', by rw [get?_put, if_neg hq, hnode'], ?_⟩
    rw [Node.text?, Node.text?, hsame]

/-! ## Lists side by side -/

/-- **Lists do not disturb each other.**  An item of the list at `a` is written, under any key; the list at
    `b` has another folder, and the list at `a` is not itself that folder.  The write is taken and leaves
    the model of the list at `b` as it was. -/
theorem model_undisturbed (hr : Reachable r) {a b : String} (item : Item)
    (ha : Path.ofString? a = some p) (hb : Path.ofString? b = some q)
    (hp : r.contains p = true) (hq : r.contains q = true)
    (hfolders : itemsFolder p ≠ itemsFolder q) (hfolder : p ≠ itemsFolder q)
    (hkey : Path.IsSegment key) :
    let write := r.upsert (Address.item a key) (Form.decode (Text.encode item.formBody))
    (∃ outcome, write.1 = .ok outcome) ∧ ∃ m, r.model b = .ok m ∧ write.2.model b = .ok m := by
  intro write
  have ht := hr.isTree
  have hwrite : write = (.ok (if r.contains ((itemsFolder p).child key) then .updated else .created),
      r.put ((itemsFolder p).child key) (itemValues item)) :=
    upsert_formBody item (Path.ofString?_item ha hkey)
  have hproper : ((itemsFolder p).child key).Addressable :=
    Or.inr ⟨Path.proper_itemsFolder (Path.ofString?_addressable ha), hkey⟩
  obtain ⟨node, hnode⟩ := contains_iff.mp hq
  obtain ⟨node', hnode', htitle⟩ := text?_title_put (p := (itemsFolder p).child key) item hnode
  -- an item of the other list is stored, and it is not the one that is written
  have hitems : ∀ name ∈ r.childNames (itemsFolder q),
      (r.put ((itemsFolder p).child key) (itemValues item)).propertiesAt ((itemsFolder q).child name)
        = r.propertiesAt ((itemsFolder q).child name) := by
    intro name hname
    refine propertiesAt_put_of_stored ht ((mem_childNames ht).mp hname) (fun he => ?_) _
    exact hfolders (Path.child.inj he).1.symm
  refine ⟨⟨_, congrArg Prod.fst hwrite⟩, r.modelAt q node, model_eq hb hnode, ?_⟩
  rw [hwrite, model_eq hb hnode']
  exact congrArg Except.ok (modelAt_congr ht (ht.put hproper _) htitle
    (childNames_put_apart ht hp hfolders hfolder _) hitems)

/-- A list and the folder in which it keeps its items, which is a list of its own: the item `items` of the
    one is the folder of the other. -/
theorem model_undisturbed_nested :
    let r := ((({} : Repository).seed "/l" "Outer" [{ name := "Buy milk", key := "1" }]).2.seed "/l/items" "Inner"
      [{ name := "Pay rent", key := "x" }]).2
    let m : Model := { title := "Inner", items := [{ name := "Pay rent", key := "x", path := some "/l/items/items/x" }] }
    let item : Item := { name := "Call home", done := true, key := "items" }
    Reachable r
      ∧ Path.ofString? "/l/" = some (.child .root "l")
      ∧ Path.ofString? "/l/items" = some (.child (.child .root "l") "items")
      ∧ r.contains (.child .root "l") = true ∧ r.contains (.child (.child .root "l") "items") = true
      ∧ Path.IsSegment "items"
      ∧ (r.model "/l/items").toOption = some m
      ∧ ((r.post "/l/" item).2.model "/l/items").toOption = some m := by
  intro r m item
  have hr : Reachable r := .seed _ _ _ (.seed _ _ _ .new)
  have ha : Path.ofString? "/l/" = some (.child .root "l") := by decide +kernel
  have hb : Path.ofString? "/l/items" = some (.child (.child .root "l") "items") := by decide +kernel
  have hp : r.contains (.child .root "l") = true := by decide +kernel
  have hq : r.contains (.child (.child .root "l") "items") = true := by decide +kernel
  have hm : (r.model "/l/items").toOption = some m := by decide +kernel
  obtain ⟨-, stored, hstored, hafter⟩ := model_undisturbed hr item ha hb hp hq (by decide) (by decide)
    Path.isSegment_items
  have hafter : (r.post "/l/" item).2.model "/l/items" = .ok stored := hafter
  refine ⟨hr, ha, hb, hp, hq, Path.isSegment_items, hm, ?_⟩
  rw [hafter, ← hstored]
  exact hm

end TodoSite.Repository
