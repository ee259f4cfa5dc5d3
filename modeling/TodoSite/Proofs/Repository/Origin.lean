/-
  Where the items of an export come from.

  A list is exported from its node and from the children of the node `items` below it.  What is exported
  can be followed back:

  1. **Every child is exported** (`Faithful.keys`), under its name and in its place.  Names are listed once,
     so the page that takes the export has a row for each of them and drops none.

  2. **Every item leads to its node** (`ComesFrom`): the path that it carries, and the address to which a
     page writes it, are those of the node that it was read from.

  CRUX.  A list is written under many addresses, with any number of slashes at the end, and the one at the
  nameless node keeps its items with those of the root.  The path that an item carries is the same under
  all of them, for it is made of the folder and the key alone.
-/
import TodoSite.Page
import TodoSite.Proofs.Markup.App
import TodoSite.Proofs.Path.Written
import TodoSite.Proofs.Repository.Export
import TodoSite.Proofs.TodoList

namespace TodoSite

namespace Repository

variable {r : Repository} {p q : Path} {resource key : String} {item : Item} {m : Model} {node : Node}

/-! ## The node of an item -/

/-- An item of the list at `resource` comes from the node at `q`. -/
structure ComesFrom (r : Repository) (resource : String) (item : Item) (q : Path) (node : Node) : Prop where
  /-- The item is written to this path. -/
  address : Path.ofString? (Address.item resource item.key) = some q
  /-- It carries this path. -/
  path : item.path = some q.render
  /-- The node is found under the path that the item carries. -/
  found : r.at? q.render = some node
  /-- The item is what the node holds. -/
  read : item = itemAt q node
  /-- When its flag is turned, the write is taken as one of a node that is there. -/
  taken : (r.post resource item.turned).1 = .ok .updated
  /-- That write changes this node, and no other. -/
  written : ∀ other, (r.post resource item.turned).2.get? other
    = if other = q then some (setting (itemValues item.turned) node) else r.get? other

/-- What is written to a node that is there changes this node alone. -/
theorem get?_put_of_stored (hnode : r.get? p = some node) (values : List (String × Value)) (q : Path) :
    (r.put p values).get? q = if q = p then some (setting values node) else r.get? q := by
  rw [get?_put, ensure_of_contains (contains_iff.mpr ⟨node, hnode⟩), hnode]
  rfl

/-- **An item of an export** comes from the child of the folder under its key. -/
theorem comesFrom_of_mem (ht : IsTree r) (hp : Path.ofString? resource = some p)
    (h : item ∈ (r.modelAt p node).items) :
    ∃ child, ComesFrom r resource item ((itemsFolder p).child item.key) child := by
  rw [items_modelAt ht] at h
  obtain ⟨key, hkey, rfl⟩ := List.mem_map.mp h
  obtain ⟨child, hchild⟩ := contains_iff.mp ((mem_childNames ht).mp hkey)
  have hsegment : Path.IsSegment key := isSegment_of_mem_childNames ht hkey
  have hproper : ((itemsFolder p).child key).Proper :=
    ⟨Path.proper_itemsFolder (Path.ofString?_addressable hp), hsegment⟩
  have hpost : r.post resource (r.exportedAt p key).turned
      = (.ok (if r.contains ((itemsFolder p).child key) then .updated else .created),
        r.put ((itemsFolder p).child key) (itemValues (r.exportedAt p key).turned)) := post_eq hp hsegment
  refine ⟨child, ?_⟩
  constructor
  · exact Path.ofString?_item hp hsegment
  · rfl
  · exact (at?_eq (Path.ofString?_render hproper)).trans hchild
  · show r.exportedAt p key = itemAt _ child
    rw [exportedAt, hchild]
    rfl
  · have hstored : r.contains ((itemsFolder p).child key) = true := contains_iff.mpr ⟨child, hchild⟩
    rw [hpost]
    exact congrArg Except.ok (if_pos hstored)
  · intro other
    rw [hpost]
    exact get?_put_of_stored hchild _ other

/-! ## The export -/

/-- The model `m` of the list at `p`, which is addressed as `resource`, holds what is stored of the list. -/
structure Faithful (r : Repository) (resource : String) (p : Path) (m : Model) : Prop where
  /-- There is one item for each name that the folder lists, in this order; none without a folder. -/
  keys : m.items.map Item.key = ((r.at? (Path.under p.render "items")).map Node.children).getD []
  /-- No two items have the same key. -/
  distinct : (m.items.map Item.key).Nodup
  /-- Each key may stand in an address. -/
  segments : ∀ item ∈ m.items, Path.IsSegment item.key
  /-- Each item comes from a node. -/
  origin : ∀ item ∈ m.items, ∃ q node, ComesFrom r resource item q node
  /-- A list that is made of the items drops none. -/
  whole : (TodoList.ofItems m.items).items = m.items
  /-- The page that is made of the model shows each item in its place, -/
  page : (Page.mk resource m).content .app = Markup.appHtml resource m.title { rows := m.items.map Item.row }
  /-- and has one row for each of them. -/
  rows : Text.occurrences "<li".toList ((Page.mk resource m).content .app).toList = m.items.length
  /-- Turning the flag of an item asks for the write that goes to its node. -/
  turned : ∀ item ∈ m.items, (TodoList.ofItems m.items).update (.toggle item.key)
    = (TodoList.ofItems m.items, some (.write (.toggle item.turned)))

/-- The names that the folder of a list lists, by its written path. -/
theorem childNames_itemsFolder (hp : p.Addressable) :
    r.childNames (itemsFolder p) = ((r.at? (Path.under p.render "items")).map Node.children).getD [] := by
  have hwritten : (itemsFolder p).render = Path.under p.render "items" :=
    Path.render_entry hp Path.isSegment_items
  rw [← hwritten, at?_eq (Path.ofString?_render (Path.proper_itemsFolder hp))]
  rfl

theorem faithful_modelAt (ht : IsTree r) (hp : Path.ofString? resource = some p) (node : Node) :
    Faithful r resource p (r.modelAt p node) := by
  have hkeys := keys_modelAt (p := p) ht node
  have hdistinct : ((r.modelAt p node).items.map Item.key).Nodup := hkeys ▸ nodup_childNames ht
  have hwhole := TodoList.items_ofItems hdistinct
  constructor
  · rw [hkeys, childNames_itemsFolder (Path.ofString?_addressable hp)]
  · exact hdistinct
  · intro item hitem
    exact isSegment_of_mem_childNames ht (hkeys ▸ List.mem_map_of_mem hitem)
  · intro item hitem
    obtain ⟨child, hchild⟩ := comesFrom_of_mem ht hp hitem
    exact ⟨_, child, hchild⟩
  · exact hwhole
  · show Markup.appHtml resource _ (TodoList.ofItems _).view = _
    rw [TodoList.view, hwhole]
  · exact (Markup.occurrences_appHtml ..).trans (congrArg List.length hwhole)
  · intro item hitem
    exact TodoList.update_toggle_of_mem (TodoList.nodup_ofItems _) (hwhole.symm ▸ hitem)

/-- **An export is faithful, and its items can be addressed.**  There is one exactly where the address is
    that of a stored node. -/
theorem export_faithful (hr : Reachable r) (resource : String) :
    ((∃ m, r.model resource = .ok m) ↔ ∃ p, Path.ofString? resource = some p ∧ r.contains p = true)
      ∧ ∀ p m, Path.ofString? resource = some p → r.model resource = .ok m → Faithful r resource p m := by
  constructor
  · constructor
    · rintro ⟨m, hm⟩
      obtain ⟨p, hp, hc, -⟩ := model_eq_ok hm
      exact ⟨p, hp, hc⟩
    · rintro ⟨p, hp, hc⟩
      obtain ⟨m, hm, -⟩ := model_isOk hp hc
      exact ⟨m, hm⟩
  · intro p m hp hm
    obtain ⟨p', hp', hc, -⟩ := model_eq_ok hm
    obtain rfl := Option.some.inj (hp.symm.trans hp')
    obtain ⟨node, hnode⟩ := contains_iff.mp hc
    rw [model_eq hp hnode] at hm
    obtain rfl := Except.ok.inj hm
    exact faithful_modelAt hr.isTree hp node

/-- The list at a run of slashes has the items of the root, one of them made as the node above another. -/
theorem export_faithful_nameless :
    let r := ((({} : Repository).upsert "//" []).2.seed "/" "L" [{ name := "Buy milk", key := "1" }]).2
    let r := (r.upsert "/items/x/y" []).2
    let m : Model :=
      { items := [{ name := "Buy milk", key := "1", path := some "/items/1" },
          { name := "", key := "x", path := some "/items/x" }] }
    Reachable r ∧ (r.model "///").toOption = some m ∧ Path.ofString? "///" = some .nameless
      ∧ Faithful r "///" .nameless m := by
  intro r₀ r m
  have hr : Reachable r := .upsert _ _ (.seed _ _ _ (.upsert _ _ .new))
  have hp : Path.ofString? "///" = some .nameless := by decide +kernel
  have hoption : (r.model "///").toOption = some m := by decide +kernel
  obtain ⟨stored, hstored⟩ := (export_faithful hr "///").1.mpr ⟨_, hp, by decide +kernel⟩
  have hsame : stored = m := by
    rw [hstored] at hoption
    exact Option.some.inj hoption
  exact ⟨hr, hoption, hp, (export_faithful hr "///").2 _ _ hp (hsame ▸ hstored)⟩

end Repository

end TodoSite
