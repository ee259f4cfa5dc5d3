/-
  Seeding a list, and exporting it again.

  A list is seeded with one write of its title and one write for each item, in order.  What is exported
  afterwards has the title and the items that were seeded, besides the items that were there before.

  1. **Several items put into a model** (`Model.items_putAll`) — an item that is there keeps its place and
     takes over what the new item with its key says (`Item.revised`); the new keys come last, in order.

  2. **The forms that are sent** are taken, and say just the title (`upsert_title`) or the name and the flag of
     an item (`upsert_seedFields`).

  3. **The write of the title** leaves the items alone (`itemsOf_put_self`), also where it makes the node of the
     list: whatever is made on the way there is less deep than an item.

  4. **The writes of the items** are an induction over them (`seedItems_model`): each one puts its item
     into the model that the others before it have left.

  CRUX.  The addresses of the items are made from the written path of the list, and not from the address at
  which it is seeded.  The two lead to the same nodes (`Path.ofString?_item_render`), even where the written
  path is the empty text.
-/
import TodoSite.Proofs.Path.Canonical
import TodoSite.Proofs.Repository.Effect
import TodoSite.Proofs.Repository.Export

namespace TodoSite

/-! ## Several items put into a model -/

namespace Item

/-- An item with the name and the flag of the one of `items` that has its key, if there is one. -/
def revised (items : List Item) (old : Item) : Item :=
  match items.find? fun item => item.key = old.key with
  | none => old
  | some item => { old with name := item.name, done := item.done }

variable {item old : Item} {items : List Item}

theorem revised_cons (item : Item) (items : List Item) (old : Item) :
    revised (item :: items) old
      = if old.key = item.key then { old with name := item.name, done := item.done } else revised items old := by
  rw [revised, List.find?_cons]
  by_cases h : old.key = item.key
  · rw [if_pos h, decide_eq_true h.symm]
  · rw [if_neg h, decide_eq_false fun he => h he.symm]
    rfl

theorem revised_of_not_mem (h : old.key ∉ items.map Item.key) : revised items old = old := by
  have hnone : items.find? (fun item => item.key = old.key) = none := by
    refine List.find?_eq_none.mpr fun item hitem hkey => h ?_
    rw [← of_decide_eq_true hkey]
    exact List.mem_map_of_mem hitem
  rw [revised, hnone]

end Item

namespace Model

variable {m : Model} {item : Item} {items : List Item} {path : String → String}

/-- The items of `items` whose keys are not in the model, each with its path. -/
def fresh (path : String → String) (m : Model) (items : List Item) : List Item :=
  (items.filter fun item => item.key ∉ m.items.map Item.key).map
    fun item => { item with path := some (path item.key) }

/-- The model after the writes of several items, one after another. -/
def putAll (path : String → String) (m : Model) (items : List Item) : Model :=
  items.foldl (fun m item => m.put (path item.key) item) m

theorem title_putAll (path : String → String) (m : Model) (items : List Item) :
    (m.putAll path items).title = m.title := by
  induction items generalizing m with
  | nil => rfl
  | cons item items ih => exact ih (m.put (path item.key) item)

theorem items_put_of_mem {written : String} (h : item.key ∈ m.items.map Item.key) :
    (m.put written item).items = m.items.map (Item.revised [item]) := by
  rw [put]
  dsimp only
  rw [if_pos h]
  exact List.map_congr_left fun old _ => (Item.revised_cons item [] old).symm

theorem items_put_of_not_mem {written : String} (h : item.key ∉ m.items.map Item.key) :
    (m.put written item).items = m.items ++ [{ item with path := some written }] := by
  rw [put]
  dsimp only
  rw [if_neg h]

/-- **Several items put into a model**: those that are there are revised in their places, the others come
    last, in order. -/
theorem items_putAll (hnodup : (items.map Item.key).Nodup) :
    (m.putAll path items).items = m.items.map (Item.revised items) ++ m.fresh path items := by
  induction items generalizing m with
  | nil =>
    show m.items = m.items.map (Item.revised []) ++ []
    rw [List.append_nil]
    exact (List.map_id _).symm
  | cons item items ih =>
    obtain ⟨hnew, hrest⟩ := List.nodup_cons.mp hnodup
    show ((m.put (path item.key) item).putAll path items).items = _
    rw [ih hrest]
    by_cases hmem : item.key ∈ m.items.map Item.key
    · -- the item is revised now; none of the others has its key
      have hrevised : (m.put (path item.key) item).items.map (Item.revised items)
          = m.items.map (Item.revised (item :: items)) := by
        rw [items_put_of_mem hmem, List.map_map]
        refine List.map_congr_left fun old _ => ?_
        rw [Function.comp_apply, Item.revised_cons, Item.revised_cons]
        split
        · rename_i hkey
          exact Item.revised_of_not_mem (hkey ▸ hnew)
        · rfl
      have hkeys : (m.put (path item.key) item).items.map Item.key = m.items.map Item.key := by
        rw [items_put_of_mem hmem, List.map_map]
        refine List.map_congr_left fun old _ => ?_
        rw [Function.comp_apply, Item.revised_cons]
        split <;> rfl
      have hfresh : (m.put (path item.key) item).fresh path items = m.fresh path (item :: items) := by
        rw [fresh, fresh, hkeys, List.filter_cons_of_neg (by simpa using hmem)]
      rw [hrevised, hfresh]
    · -- the item is the last one now, and the first of those that come last
      have hrevised : (m.put (path item.key) item).items.map (Item.revised items)
          = m.items.map (Item.revised (item :: items)) ++ [{ item with path := some (path item.key) }] := by
        rw [items_put_of_not_mem hmem, List.map_append, List.map_singleton]
        have hself : Item.revised items { item with path := some (path item.key) }
            = { item with path := some (path item.key) } := Item.revised_of_not_mem hnew
        rw [hself]
        refine congrArg (· ++ _) (List.map_congr_left fun old hold => ?_)
        have hne : old.key ≠ item.key := fun he => hmem (he ▸ List.mem_map_of_mem hold)
        rw [Item.revised_cons, if_neg hne]
      have hfresh : m.fresh path (item :: items)
          = { item with path := some (path item.key) } :: (m.put (path item.key) item).fresh path items := by
        rw [fresh, fresh, List.filter_cons_of_pos (by simpa using hmem), List.map_cons]
        refine congrArg (_ :: List.map _ ·) (List.filter_congr fun other hother => ?_)
        have hne : other.key ≠ item.key := fun he => hnew (he ▸ List.mem_map_of_mem hother)
        rw [items_put_of_not_mem hmem]
        simp [hne]
      rw [hrevised, hfresh, List.append_assoc]
      rfl

end Model

namespace Repository

variable {r : Repository} {p : Path} {address title key : String} {item : Item} {items : List Item} {m : Model}
  {values : List (String × Value)}

/-! ## The forms that are sent -/

/-- A field that is no hint changes nothing about the other fields. -/
theorem value_cons {fields : Fields} {name raw : String} (h : Fields.isHint name = false) :
    Fields.value ((name, raw) :: fields) = Fields.value fields := by
  funext other
  have hother : name ≠ other.1 ++ Fields.hintEnding := by
    intro he
    rw [he, Fields.isHint, String.toList_append, ← Bool.not_eq_true, List.isSuffixOf_iff_suffix] at h
    exact h (List.suffix_append _ _)
  have hhint : Fields.hint? ((name, raw) :: fields) other.1 = Fields.hint? fields other.1 := by
    rw [Fields.hint?, List.reverse_cons, List.find?_append, List.find?_singleton, decide_eq_false hother]
    simp [Fields.hint?]
  rw [Fields.value, Fields.value, hhint]

/-- **The form of the seeding** is that of a browser, but for the type of the node. -/
theorem values_seedFields (item : Item) : Fields.values (seedFields item) = .ok (nameAndFlag item) := by
  have hpairs : Fields.values ((primaryType, unstructured) :: seedFields item)
      = .ok ((primaryType, .text unstructured) :: nameAndFlag item) := values_pairs item
  have hhint : Fields.isHint primaryType = false := by decide
  rw [Fields.values, List.filter_cons_of_pos (by rw [hhint]; rfl), value_cons hhint] at hpairs
  obtain ⟨value, values, -, hvalues, hsplit⟩ := mapM_cons_eq_ok hpairs
  rw [(List.cons.inj hsplit).2]
  exact hvalues

/-- The write with which an item is seeded is taken. -/
theorem upsert_seedFields (hp : Path.ofString? address = some p) (item : Item) :
    r.upsert address (seedFields item)
      = (.ok (if r.contains p then .updated else .created), r.put p (nameAndFlag item)) := by
  rw [upsert, hp]
  dsimp only
  rw [values_seedFields]

/-- The write of the title is taken. -/
theorem upsert_title (hp : Path.ofString? address = some p) (title : String) :
    r.upsert address [(titleProperty, title)]
      = (.ok (if r.contains p then .updated else .created), r.put p [(titleProperty, .text title)]) := by
  have hhint : Fields.isHint titleProperty = false := by decide
  have hvalues : Fields.values [(titleProperty, title)] = .ok [(titleProperty, .text title)] := by
    rw [Fields.values, List.filter_cons_of_pos (by rw [hhint]; rfl), List.filter_nil, value_cons hhint]
    rfl
  rw [upsert, hp]
  dsimp only
  rw [hvalues]

/-! ## The write of the title -/

/-- The items in the folder of the list at a path, as they are exported. -/
def itemsOf (r : Repository) (p : Path) : List Item :=
  (r.childrenOf (itemsFolder p)).map fun entry => itemAt entry.1 entry.2

theorem itemsOf_eq (ht : IsTree r) : r.itemsOf p = (r.childNames (itemsFolder p)).map (r.exportedAt p) :=
  items_modelAt ht {}

/-- **A write to the node of a list** leaves its items alone. -/
theorem itemsOf_put_self (ht : IsTree r) (hp : p.Addressable) (values : List (String × Value)) :
    (r.put p values).itemsOf p = r.itemsOf p := by
  have hnames : (r.put p values).childNames (itemsFolder p) = r.childNames (itemsFolder p) := by
    rw [childNames_put_eq]
    refine childNames_ensure fun name hway => ?_
    -- no item is on the way to its list
    have hle := Path.depth_le_of_mem_way hway
    have hlt := depth_lt_child_itemsFolder p name
    omega
  have hitems : (r.put p values).exportedAt p = r.exportedAt p := by
    funext key
    rw [exportedAt, exportedAt, get?_put, if_neg (Ne.symm ne_child_itemsFolder),
      get?_ensure_of_depth (depth_lt_child_itemsFolder p key)]
  rw [itemsOf_eq (ht.put hp values), itemsOf_eq ht, hnames, hitems]

/-- **The model after the write of the title.** -/
theorem model_put_title (ht : IsTree r) (hp : Path.ofString? address = some p) (title : String) :
    (r.put p [(titleProperty, .text title)]).model address = .ok { title, items := r.itemsOf p } := by
  obtain ⟨node, hnode⟩ := get?_put_self (p := p) ht [(titleProperty, .text title)]
  have htitle : (setting [(titleProperty, .text title)] node).text? titleProperty = some title := by
    show ((node.properties.insert titleProperty (.text title)).get? titleProperty).bind Value.text? = some title
    rw [NameMap.get?_insert, if_pos rfl]
    rfl
  rw [model_eq hp hnode, modelAt, htitle]
  exact congrArg (fun items => Except.ok (Model.mk title items))
    (itemsOf_put_self ht (Path.ofString?_addressable hp) _)

/-! ## The writes of the items -/

/-- The written path of the item with a key. -/
def itemPath (p : Path) (key : String) : String := ((itemsFolder p).child key).render

/-- **The writes of the items** are taken, and put them into the model one after another. -/
theorem seedItems_model (ht : IsTree r) (hp : Path.ofString? address = some p) (hm : r.model address = .ok m)
    (hkeys : ∀ item ∈ items, Path.IsSegment item.key) :
    (seedItems p.render r items).1 = .ok ()
      ∧ (seedItems p.render r items).2.model address = .ok (m.putAll (itemPath p) items) := by
  have hadd := Path.ofString?_addressable hp
  induction items generalizing r m with
  | nil => exact ⟨rfl, hm⟩
  | cons item items ih =>
    obtain ⟨hkey, hrest⟩ := List.forall_mem_cons.mp hkeys
    have hwrite := upsert_seedFields (r := r) (Path.ofString?_item_render hadd hkey) item
    have haddress : ((itemsFolder p).child item.key).Addressable := Or.inr ⟨Path.proper_itemsFolder hadd, hkey⟩
    obtain ⟨q, hq, hc, -⟩ := model_eq_ok hm
    obtain rfl := Option.some.inj (hp.symm.trans hq)
    obtain ⟨node, hnode⟩ := contains_iff.mp hc
    rw [model_eq hp hnode] at hm
    obtain rfl := Except.ok.inj hm
    rw [seedItems, hwrite]
    exact ih (ht.put haddress _) (model_put_of_describes ht hp hnode hkey (describes_nameAndFlag item)) hrest

/-! ## Seeding -/

/-- An item of a list that is seeded at an address, with the normal form of its own address as its path. -/
def placed (address : String) (item : Item) : Item :=
  { item with path := Path.normal? (Address.item address item.key) }

/-- What is exported after a list has been seeded where there were the items `olds`. -/
def seededModel (address title : String) (olds items : List Item) : Model where
  title := title
  items := olds.map (Item.revised items)
    ++ (items.filter fun item => item.key ∉ olds.map Item.key).map (placed address)

theorem normal?_item (hp : Path.ofString? address = some p) (hkey : Path.IsSegment key) :
    Path.normal? (Address.item address key) = some (itemPath p key) := by
  rw [Path.normal?, Path.ofString?_item hp hkey]
  rfl

/-- Seeding a list in a tree. -/
theorem seed_model (ht : IsTree r) (hp : Path.ofString? address = some p) (title : String)
    (hnodup : (items.map Item.key).Nodup) (hkeys : ∀ item ∈ items, Path.IsSegment item.key) :
    (r.seed address title items).1 = .ok ()
      ∧ (r.seed address title items).2.model address = .ok (seededModel address title (r.itemsOf p) items) := by
  have htitle := ht.put (Path.ofString?_addressable hp) [(titleProperty, .text title)]
  obtain ⟨hok, hmodel⟩ := seedItems_model htitle hp (model_put_title ht hp title) hkeys
  -- the paths of the new items are the normal forms of their addresses
  have hfresh : ({ title, items := r.itemsOf p } : Model).fresh (itemPath p) items
      = (items.filter fun item => item.key ∉ (r.itemsOf p).map Item.key).map (placed address) := by
    refine List.map_congr_left fun item hitem => ?_
    rw [placed, normal?_item hp (hkeys item (List.mem_of_mem_filter hitem))]
  have hputAll : ({ title, items := r.itemsOf p } : Model).putAll (itemPath p) items
      = seededModel address title (r.itemsOf p) items := by
    rw [Model.mk.injEq]
    refine ⟨Model.title_putAll _ _ _, ?_⟩
    rw [Model.items_putAll hnodup, hfresh]
    rfl
  rw [hputAll] at hmodel
  rw [seed, upsert_title hp]
  dsimp only
  rw [hp]
  exact ⟨hok, hmodel⟩

/-- At first no list has items. -/
theorem itemsOf_new (p : Path) : itemsOf {} p = [] := by
  have hnone : ({} : Repository).get? (itemsFolder p) = none := by
    rw [Path.itemsFolder_eq]
    rfl
  rw [itemsOf, childrenOf, hnone]
  rfl

/-- In a new repository the export is the list that was seeded. -/
theorem seed_model_new (hp : Path.ofString? address = some p) (title : String)
    (hnodup : (items.map Item.key).Nodup) (hkeys : ∀ item ∈ items, Path.IsSegment item.key) :
    (({} : Repository).seed address title items).1 = .ok ()
      ∧ (({} : Repository).seed address title items).2.model address
        = .ok { title, items := items.map (placed address) } := by
  obtain ⟨hok, hmodel⟩ := seed_model isTree_new hp title hnodup hkeys
  refine ⟨hok, ?_⟩
  rw [hmodel, itemsOf_new, seededModel, List.map_nil, List.nil_append]
  simp

/-- **A list that is seeded is what is exported.**  The items that were in its folder stay where they are, with
    the name and the flag of the seeded one that has their key; the other ones come behind them, in order, each
    at the normal form of its address.  So in a new repository the export is the list that was seeded. -/
theorem model_seed (hr : Reachable r) (hp : Path.ofString? address = some p) (title : String)
    (hnodup : (items.map Item.key).Nodup) (hkeys : ∀ item ∈ items, Path.IsSegment item.key) :
    (r.seed address title items).1 = .ok ()
      ∧ (r.seed address title items).2.model address = .ok (seededModel address title (r.itemsOf p) items)
      ∧ (({} : Repository).seed address title items).2.model address
        = .ok { title, items := items.map (placed address) }
      ∧ ∀ item ∈ items, ∃ written, (placed address item).path = some written := by
  obtain ⟨hok, hmodel⟩ := seed_model hr.isTree hp title hnodup hkeys
  obtain ⟨-, hnew⟩ := seed_model_new hp title hnodup hkeys
  refine ⟨hok, hmodel, hnew, ?_⟩
  intro item hitem
  refine ⟨itemPath p item.key, ?_⟩
  rw [placed]
  dsimp only
  exact normal?_item hp (hkeys item hitem)

/-- Seeding at a run of slashes, whose items are those of the root: the one that was written before is revised
    in its place, and the new key comes behind it. -/
theorem model_seed_slashes :
    let r := (({} : Repository).upsert "/items/x" [("name", "Old"), ("done", "TRUE")]).2
    let items : List Item := [{ name := "Milk", done := true, key := "1" }, { name := "Bread", key := "x" }]
    Reachable r ∧ Path.ofString? "///" = some .nameless ∧ (items.map Item.key).Nodup
      ∧ (∀ item ∈ items, Path.IsSegment item.key)
      ∧ r.itemsOf .nameless = [{ name := "Old", done := true, key := "x", path := some "/items/x" }]
      ∧ (r.seed "///" "Errands" items).1 = .ok ()
      ∧ (r.seed "///" "Errands" items).2.model "///"
        = .ok { title := "Errands", items := [{ name := "Bread", key := "x", path := some "/items/x" },
            { name := "Milk", done := true, key := "1", path := some "/items/1" }] } := by
  intro r items
  have hr : Reachable r := .upsert _ _ .new
  have hp : Path.ofString? "///" = some .nameless := by decide +kernel
  have hnodup : (items.map Item.key).Nodup := by decide
  have hkeys : ∀ item ∈ items, Path.IsSegment item.key := by
    simp only [items, List.forall_mem_cons, List.not_mem_nil, false_implies, implies_true, and_true, Path.IsSegment]
    decide
  have hitems : r.itemsOf .nameless = [{ name := "Old", done := true, key := "x", path := some "/items/x" }] := by
    decide +kernel
  obtain ⟨hok, hmodel, -⟩ := model_seed hr hp "Errands" hnodup hkeys
  refine ⟨hr, hp, hnodup, hkeys, hitems, hok, ?_⟩
  rw [hmodel, hitems]
  decide +kernel

end Repository

end TodoSite
