/-
  The model of a list, and what the write of an item does to it.

  1. **Its items** (`find?_items`) — the item with a key is what the node at the address of that key holds,
     and there is none where there is no such node.  So what is exported is what was written there.

  2. **A write** (`model_after_write`) leaves the title and the order alone.  An item with the key of the
     one that is written keeps its place and gets the other's name and flag; where there is none, the
     item comes last, with the path of its node.

  CRUX.  The node of an item stands below a folder, and the folder below the node of the list.  The write
  may add that folder to the children of the node of the list; it does not touch its properties
  (`properties_ensure`), and the title is one of them.
-/
import TodoSite.Proofs.Repository.Items

namespace TodoSite

/-- The model after the write of an item whose node is at `path`. -/
def Model.put (m : Model) (path : String) (item : Item) : Model :=
  { m with items :=
      if item.key ∈ m.items.map Item.key then
        m.items.map fun old =>
          if old.key = item.key then { old with name := item.name, done := item.done } else old
      else m.items ++ [{ item with path := some path }] }

namespace Repository

/-- The item with the key `key` of the list at `p`, as it is exported. -/
def exportedAt (r : Repository) (p : Path) (key : String) : Item :=
  itemAt ((itemsFolder p).child key) ((r.get? ((itemsFolder p).child key)).getD {})

variable {r : Repository} {p q : Path} {resource key : String} {item : Item} {m : Model}
  {values : List (String × Value)}

/-! ## The items of a model -/

theorem items_modelAt (ht : IsTree r) (node : Node) :
    (r.modelAt p node).items = (r.childNames (itemsFolder p)).map (r.exportedAt p) := by
  show (r.childrenOf (itemsFolder p)).map _ = _
  rw [childrenOf_itemsFolder ht, List.map_map]
  rfl

theorem keys_modelAt (ht : IsTree r) (node : Node) :
    (r.modelAt p node).items.map Item.key = r.childNames (itemsFolder p) := by
  rw [items_modelAt ht, List.map_map]
  exact List.map_id _

/-- **The item with a key** is what the node at its address holds. -/
theorem find?_items (ht : IsTree r) (node : Node) (key : String) :
    (r.modelAt p node).items.find? (fun item => item.key = key)
      = (r.get? ((itemsFolder p).child key)).map (itemAt ((itemsFolder p).child key)) := by
  have hkeys : (r.modelAt p node).items.find? (fun item => item.key = key)
      = ((r.childNames (itemsFolder p)).find? (fun name => name = key)).map (r.exportedAt p) := by
    rw [items_modelAt ht, List.find?_map]
    rfl
  rw [hkeys]
  cases hfind : (r.childNames (itemsFolder p)).find? (fun name => name = key) with
  | none =>
    have hmissing : r.get? ((itemsFolder p).child key) = none := by
      rw [← not_contains_iff, ← mem_childNames ht]
      intro hmem
      simpa using List.find?_eq_none.mp hfind key hmem
    rw [hmissing]
    rfl
  | some name =>
    have hname : name = key := by simpa using List.find?_some hfind
    subst hname
    obtain ⟨child, hchild⟩ := contains_iff.mp ((mem_childNames ht).mp (List.mem_of_find?_eq_some hfind))
    simp [exportedAt, hchild]

/-! ## The node of the list -/

/-- Making nodes leaves the properties of those alone that are there. -/
theorem properties_ensure (h : r.contains p = true) :
    ((r.ensure q).get? p).map Node.properties = (r.get? p).map Node.properties := by
  induction q with
  | root => rfl
  | child parent name ih =>
    by_cases hc : r.contains (.child parent name) = true
    · rw [ensure_of_contains hc]
    · have hne : p ≠ .child parent name := fun he => hc (he ▸ h)
      rw [get?_ensure_child hc, if_neg hne]
      split
      · rename_i he
        subst he
        rw [Option.map_map]
        exact ih
      · exact ih

/-- The node of an item is two steps below that of its list, or below the root. -/
theorem depth_lt_child_itemsFolder (p : Path) (key : String) : p.depth < ((itemsFolder p).child key).depth := by
  show p.depth < (itemsFolder p).depth + 1
  rw [Path.itemsFolder_eq]
  split
  · rename_i hp
    rw [hp]
    decide
  · show p.depth < p.depth + 1 + 1
    omega

theorem ne_child_itemsFolder : p ≠ (itemsFolder p).child key := by
  intro he
  have hdepth := depth_lt_child_itemsFolder p key
  rw [← he] at hdepth
  omega

/-- The title is a property of the node of the list. -/
theorem title_modelAt {r' : Repository} {node node' : Node} (h : node'.properties = node.properties) :
    (r'.modelAt p node').title = (r.modelAt p node).title := by
  simp [modelAt, Node.text?, h]

/-! ## The write of an item -/

theorem exportedAt_put_self (ht : IsTree r) (hvalues : Describes values item) :
    (r.put ((itemsFolder p).child item.key) values).exportedAt p item.key
      = { item with path := some ((itemsFolder p).child item.key).render } := by
  obtain ⟨node, hnode⟩ := get?_put_self (p := (itemsFolder p).child item.key) ht values
  have hentry := hvalues node item.key
  simp only [Node.entry, Prod.mk.injEq, true_and] at hentry
  obtain ⟨hname, hdone⟩ := hentry
  rw [exportedAt, hnode]
  show itemAt _ (setting values node) = _
  rw [itemAt, hname, hdone]
  rfl

theorem exportedAt_put_ne {other : String} (h : other ≠ item.key) :
    (r.put ((itemsFolder p).child item.key) values).exportedAt p other = r.exportedAt p other := by
  rw [exportedAt, exportedAt, get?_put_child_ne h]

/-- **The items after a write** that describes an item. -/
theorem items_put (ht : IsTree r) (hp : p.Addressable) (hkey : Path.IsSegment item.key)
    (hvalues : Describes values item) (node node' : Node) :
    ((r.put ((itemsFolder p).child item.key) values).modelAt p node').items
      = ((r.modelAt p node).put ((itemsFolder p).child item.key).render item).items := by
  have haddress : ((itemsFolder p).child item.key).Addressable :=
    Or.inr ⟨Path.proper_itemsFolder hp, hkey⟩
  rw [items_modelAt (ht.put haddress _), Model.put, keys_modelAt ht, items_modelAt ht,
    map_childNames_put ht fun _ => exportedAt_put_ne, exportedAt_put_self ht hvalues, List.map_map]
  by_cases hmem : item.key ∈ r.childNames (itemsFolder p)
  · rw [if_pos hmem, if_pos hmem]
    refine List.map_congr_left fun k _ => ?_
    have hk : (r.exportedAt p k).key = k := rfl
    rw [Function.comp_apply, hk]
    split
    · -- the old item has the key and the path already
      rename_i he
      subst he
      rfl
    · rfl
  · rw [if_neg hmem, if_neg hmem]

/-- **The model after a write** that describes an item, under the path of the item. -/
theorem model_put_of_describes (ht : IsTree r) {node : Node} (hp : Path.ofString? resource = some p)
    (hnode : r.get? p = some node) (hkey : Path.IsSegment item.key) (hvalues : Describes values item) :
    (r.put ((itemsFolder p).child item.key) values).model resource
      = .ok ((r.modelAt p node).put ((itemsFolder p).child item.key).render item) := by
  -- the node of the list keeps its properties
  have hproperties : ((r.put ((itemsFolder p).child item.key) values).get? p).map Node.properties
      = some node.properties := by
    rw [get?_put, if_neg ne_child_itemsFolder, properties_ensure (contains_iff.mpr ⟨node, hnode⟩), hnode]
    rfl
  obtain ⟨node', hnode', hsame⟩ := Option.map_eq_some_iff.mp hproperties
  have hitems := items_put ht (Path.ofString?_addressable hp) hkey hvalues node node'
  have htitle : ((r.put ((itemsFolder p).child item.key) values).modelAt p node').title
      = (r.modelAt p node).title := title_modelAt hsame
  rw [model_eq hp hnode']
  refine congrArg Except.ok ?_
  rw [Model.mk.injEq]
  exact ⟨htitle, hitems⟩

/-- The model after the write of the form of an item. -/
theorem model_put (ht : IsTree r) {node : Node} (hp : Path.ofString? resource = some p)
    (hnode : r.get? p = some node) (hkey : Path.IsSegment item.key) :
    (r.put ((itemsFolder p).child item.key) (itemValues item)).model resource
      = .ok ((r.modelAt p node).put ((itemsFolder p).child item.key).render item) :=
  model_put_of_describes ht hp hnode hkey (entry_setting item)

/-- **The model after the write of an item.**  The write is taken, and says whether the key is new.  The
    keys of a model differ, so at most one of its items is changed. -/
theorem model_after_write (hr : Reachable r) (hm : r.model resource = .ok m)
    (hkey : Path.IsSegment item.key) :
    (m.items.map Item.key).Nodup
      ∧ ∃ q, Path.ofString? (Address.item resource item.key) = some q
        ∧ (r.post resource item).1
          = .ok (if item.key ∈ m.items.map Item.key then .updated else .created)
        ∧ (r.post resource item).2.model resource = .ok (m.put q.render item) := by
  have ht := hr.isTree
  obtain ⟨p, hp, hc, -⟩ := model_eq_ok hm
  obtain ⟨node, hnode⟩ := contains_iff.mp hc
  rw [model_eq hp hnode] at hm
  obtain rfl := Except.ok.inj hm
  refine ⟨?_, (itemsFolder p).child item.key, Path.ofString?_item hp hkey, ?_, ?_⟩
  · rw [keys_modelAt ht]
    exact nodup_childNames ht
  · simp only [post_eq hp hkey, keys_modelAt ht, mem_childNames ht]
  · rw [post_eq hp hkey]
    exact model_put ht hp hnode hkey

/-- The list at a run of slashes has a title of its own, and its items are those of the root.  The first
    write finds no folder, the second an item. -/
theorem model_after_write_nameless :
    let r := (({} : Repository).upsert "//" [(titleProperty, "Errands")]).2
    let milk : Item := { name := "Buy milk", key := "item1" }
    let bread : Item := { name := "Buy bread", done := true, key := "item1" }
    Reachable r ∧ r.model "//" = .ok { title := "Errands" } ∧ Path.IsSegment "item1"
      ∧ (r.post "//" milk).1 = .ok .created
      ∧ ((r.post "//" milk).2.post "//" bread).1 = .ok .updated
      ∧ ((r.post "//" milk).2.post "//" bread).2.model "//"
        = .ok { title := "Errands", items := [{ bread with path := some "/items/item1" }] } := by
  intro r milk bread
  have hr : Reachable r := .upsert _ _ .new
  have hm : r.model "//" = .ok { title := "Errands" } := by rfl
  have hkey : Path.IsSegment "item1" := by
    refine ⟨by decide, ?_⟩
    decide
  have haddress : Path.ofString? (Address.item "//" "item1") = some (.child (.child .root "items") "item1") := by
    decide +kernel
  have hmilk : Path.IsSegment milk.key := hkey
  have hbread : Path.IsSegment bread.key := hkey
  obtain ⟨-, q, hq, hcreated, hposted⟩ := model_after_write hr hm hmilk
  obtain ⟨-, q', hq', hupdated, hagain⟩ := model_after_write (.upsert _ _ hr) hposted hbread
  obtain rfl := Option.some.inj (haddress.symm.trans hq)
  obtain rfl := Option.some.inj (haddress.symm.trans hq')
  exact ⟨hr, hm, hkey, hcreated, hupdated, hagain⟩

end Repository

end TodoSite
