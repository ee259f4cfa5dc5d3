/-
  What the write of an item does to the list that is exported.

  Of an item three things are looked at here, its *entry*: key, name and flag.  A browser writes an
  item as a form to the address of the item (`post`), and the repository exports a list item by item
  (`entries`).

  1. **The keys** of a list are the names of the children of one node, its folder; each of them is
     stored, none is listed twice, and each may stand in an address.

  2. **A write is taken** (`post_eq`), whatever the item holds, as long as its key may stand in an
     address.

  3. **Its effect** (`map_childNames_put`, `entries_put`): a key that is there keeps its place and
     gets the name and the flag of the item; a new key comes last.
-/
import Mathlib.Data.List.Basic
import TodoSite.Proofs.Form
import TodoSite.Proofs.NameMap
import TodoSite.Proofs.Repository.Tree

namespace TodoSite

/-- What two lists are compared by: the key, the name and the flag of an item. -/
abbrev Entry := String × String × Bool

/-- The entry of an item. -/
def Item.entry (item : Item) : Entry := (item.key, item.name, item.done)

/-- The entry under which a node is exported. -/
def Node.entry (key : String) (node : Node) : Entry :=
  (key, (node.text? "name").getD "", (node.bool? "done").getD false)

namespace Repository

/-- Writes an item of the list at `resource` as a browser does: the form of the item goes to the
    address of the item. -/
def post (r : Repository) (resource : String) (item : Item) : Except RepositoryError Upsert × Repository :=
  r.upsert (Address.item resource item.key) (Form.decode (Text.encode item.formBody))

/-- The entries of the list at `p`, as they are exported. -/
def entries (r : Repository) (p : Path) : List Entry :=
  (r.childrenOf (itemsFolder p)).map fun child => (itemAt child.1 child.2).entry

/-- The names of the children of a node; none where there is no node. -/
def childNames (r : Repository) (p : Path) : List String :=
  ((r.get? p).map Node.children).getD []

variable {r : Repository} {p : Path} {resource key : String} {item : Item} {values : List (String × Value)}

/-! ## The keys of a list -/

theorem mem_childNames (ht : IsTree r) :
    key ∈ r.childNames p ↔ r.contains (p.child key) = true := by
  rw [ht.listed, childNames]
  cases hnode : r.get? p with
  | none => exact ⟨fun h => absurd h List.not_mem_nil, fun ⟨_, h, _⟩ => by cases h⟩
  | some node => exact ⟨fun h => ⟨node, rfl, h⟩, fun ⟨_, h, hm⟩ => by cases h; exact hm⟩

theorem nodup_childNames (ht : IsTree r) : (r.childNames p).Nodup := by
  rw [childNames]
  cases hnode : r.get? p with
  | none => exact List.nodup_nil
  | some node => exact ht.nodup p node hnode

theorem isSegment_of_mem_childNames (ht : IsTree r) (hkey : key ∈ r.childNames (itemsFolder p)) :
    Path.IsSegment key := by
  refine (ht.addressable _ ((mem_childNames ht).mp hkey)).isSegment ?_
  rw [Path.itemsFolder_eq]
  exact fun h => Path.noConfusion h

/-- The entry of the item with the key `key` of the list at `p`. -/
def entryAt (r : Repository) (p : Path) (key : String) : Entry :=
  ((r.get? ((itemsFolder p).child key)).getD {}).entry key

/-- What a node lists is stored: the child under the name, or the root once more. -/
theorem contains_entry (ht : IsTree r) (hkey : key ∈ r.childNames p) : r.contains (p.entry key) = true := by
  have hchild := (mem_childNames ht).mp hkey
  have hproper : p.Proper := (ht.addressable _ hchild).parent
  rw [Path.entry, if_neg hproper.ne_nameless]
  split
  · exact ht.root
  · exact hchild

/-- **The children of a node go through the names that it lists** and leave none of them out. -/
theorem childrenOf_eq (ht : IsTree r) (p : Path) :
    r.childrenOf p = (r.childNames p).map fun name => (p.entry name, (r.get? (p.entry name)).getD {}) := by
  have hstored : ∀ name ∈ r.childNames p, r.contains (p.entry name) = true := fun name => contains_entry ht
  rw [childrenOf, childNames] at *
  cases hnode : r.get? p with
  | none => rfl
  | some node =>
    rw [hnode] at hstored
    show node.children.filterMap _ = node.children.map _
    rw [← List.filterMap_eq_map]
    refine List.filterMap_congr fun name hname => ?_
    obtain ⟨child, hchild⟩ := contains_iff.mp (hstored name hname)
    simp [hchild]

/-- The names that a folder lists are those of its children. -/
theorem childrenOf_itemsFolder (ht : IsTree r) :
    r.childrenOf (itemsFolder p) = (r.childNames (itemsFolder p)).map fun name =>
      ((itemsFolder p).child name, (r.get? ((itemsFolder p).child name)).getD {}) := by
  simp only [childrenOf_eq ht, Path.entry_itemsFolder]

theorem entries_eq (ht : IsTree r) : r.entries p = (r.childNames (itemsFolder p)).map (r.entryAt p) := by
  rw [entries, childrenOf_itemsFolder ht, List.map_map]
  rfl

theorem keys_entries (ht : IsTree r) : (r.entries p).map (·.1) = r.childNames (itemsFolder p) := by
  rw [entries_eq ht, List.map_map]
  exact List.map_id _

/-- A list has one entry for each key. -/
theorem eq_entryAt_of_mem (ht : IsTree r) {e : Entry} (h : e ∈ r.entries p) :
    e.1 ∈ r.childNames (itemsFolder p) ∧ e = r.entryAt p e.1 := by
  rw [entries_eq ht] at h
  obtain ⟨k, hk, rfl⟩ := List.mem_map.mp h
  exact ⟨hk, rfl⟩

/-! ## The model of a list -/

theorem model_eq {node : Node} (hp : Path.ofString? resource = some p) (hnode : r.get? p = some node) :
    r.model resource = .ok (r.modelAt p node) := by
  unfold model
  rw [hp]
  dsimp only
  rw [hnode]

theorem model_eq_ok {m : Model} (h : r.model resource = .ok m) :
    ∃ p, Path.ofString? resource = some p ∧ r.contains p = true ∧ m.items.map Item.entry = r.entries p := by
  unfold model at h
  split at h
  · cases h
  · rename_i p hp
    split at h
    · cases h
    · rename_i node hnode
      cases h
      exact ⟨p, hp, contains_iff.mpr ⟨node, hnode⟩, List.map_map⟩

theorem model_isOk (hp : Path.ofString? resource = some p) (hc : r.contains p = true) :
    ∃ m, r.model resource = .ok m ∧ m.items.map Item.entry = r.entries p := by
  obtain ⟨node, hnode⟩ := contains_iff.mp hc
  exact ⟨r.modelAt p node, model_eq hp hnode, List.map_map⟩

/-! ## The form of an item -/

/-- The properties that the form of an item sets. -/
def itemValues (item : Item) : List (String × Value) :=
  [(primaryType, .text unstructured), ("name", .text item.name), ("done", .bool item.done)]

/-- A field whose type no other field of the form gives is stored as a text. -/
theorem hint?_pairs_none (item : Item) (name : String)
    (h : ∀ n ∈ ["done@TypeHint", "done", "name", primaryType], n ≠ name ++ Fields.hintEnding) :
    Fields.hint? item.form.pairs name = none := by
  simp only [List.mem_cons, List.not_mem_nil, or_false, forall_eq_or_imp, forall_eq] at h
  obtain ⟨h1, h2, h3, h4⟩ := h
  show (List.find? _ [("done@TypeHint", "boolean"), ("done", boolText item.done),
    ("name", item.name), (primaryType, unstructured)]).map _ = none
  simp only [List.find?, h1, h2, h3, h4, decide_false, Option.map_none]

/-- The flag is stored as a truth value. -/
theorem hint?_pairs_done (item : Item) : Fields.hint? item.form.pairs "done" = some "boolean" := by
  have h : "done@TypeHint" = "done" ++ Fields.hintEnding := by decide
  show (List.find? _ [("done@TypeHint", "boolean"), ("done", boolText item.done),
    ("name", item.name), (primaryType, unstructured)]).map _ = some "boolean"
  simp only [List.find?, decide_eq_true h, Option.map_some]

theorem values_pairs (item : Item) : Fields.values item.form.pairs = .ok (itemValues item) := by
  -- of the four fields, one only says the type of another
  have hfilter : item.form.pairs.filter (fun field => !Fields.isHint field.1)
      = [(primaryType, unstructured), ("name", item.name), ("done", boolText item.done)] := by
    have h1 : Fields.isHint primaryType = false := by decide
    have h2 : Fields.isHint "name" = false := by decide
    have h3 : Fields.isHint "done" = false := by decide
    have h4 : Fields.isHint "done@TypeHint" = true := by decide
    simp only [ItemForm.pairs, Item.form, List.filter, h1, h2, h3, h4, Bool.not_false, Bool.not_true]
  have htype : Fields.value item.form.pairs (primaryType, unstructured)
      = .ok (primaryType, .text unstructured) := by
    have hnone := hint?_pairs_none item primaryType (by decide)
    rw [Fields.value, hnone]
  have hname : Fields.value item.form.pairs ("name", item.name) = .ok ("name", .text item.name) := by
    have hnone := hint?_pairs_none item "name" (by decide)
    rw [Fields.value, hnone]
  have hdone : Fields.value item.form.pairs ("done", boolText item.done)
      = .ok ("done", .bool item.done) := by
    have hspelled : ∀ b, Value.spelledBool? (boolText b) = some b := by decide
    rw [Fields.value, hint?_pairs_done]
    dsimp only
    rw [if_pos (by decide : Fields.asksForBool "boolean" = true), hspelled]
  rw [Fields.values, hfilter, List.mapM_cons, htype, List.mapM_cons, hname, List.mapM_cons, hdone]
  rfl

/-- **What a node holds after the form of an item**: the name as a text, the flag as a truth value, and
    what it held before under other names than those of the three fields. -/
theorem get?_setting_itemValues (item : Item) (node : Node) (name : String) :
    (setting (itemValues item) node).properties.get? name
      = if name = "done" then some (.bool item.done)
        else if name = "name" then some (.text item.name)
        else if name = primaryType then some (.text unstructured)
        else node.properties.get? name := by
  show (NameMap.insert "done" (.bool item.done) (NameMap.insert "name" (.text item.name)
    (NameMap.insert primaryType (.text unstructured) node.properties))).get? name = _
  rw [NameMap.get?_insert, NameMap.get?_insert, NameMap.get?_insert]

/-! ## The name and the flag -/

/-- Whether `values` give a node the name and the flag of `item`, whatever it held before. -/
def Describes (values : List (String × Value)) (item : Item) : Prop :=
  ∀ node key, (setting values node).entry key = (key, item.name, item.done)

/-- The properties that hold the name and the flag of an item. -/
def nameAndFlag (item : Item) : List (String × Value) :=
  [("name", .text item.name), ("done", .bool item.done)]

theorem describes_nameAndFlag (item : Item) : Describes (nameAndFlag item) item := by
  intro node key
  have hget : ∀ name, (setting (nameAndFlag item) node).properties.get? name
      = if name = "done" then some (.bool item.done)
        else if name = "name" then some (.text item.name) else node.properties.get? name := by
    intro name
    show (NameMap.insert "done" (.bool item.done) (NameMap.insert "name" (.text item.name)
      node.properties)).get? name = _
    rw [NameMap.get?_insert, NameMap.get?_insert]
  have hname : (setting (nameAndFlag item) node).text? "name" = some item.name := by
    rw [Node.text?, hget, if_neg (by decide), if_pos rfl]
    rfl
  have hdone : (setting (nameAndFlag item) node).bool? "done" = some item.done := by
    rw [Node.bool?, hget, if_pos rfl]
    rfl
  rw [Node.entry, hname, hdone]
  rfl

/-- The form of an item describes it: it sets the type of the node before the name and the flag. -/
theorem entry_setting (item : Item) (node : Node) (key : String) :
    (setting (itemValues item) node).entry key = (key, item.name, item.done) :=
  describes_nameAndFlag item (setting [(primaryType, .text unstructured)] node) key

/-! ## The write of an item -/

/-- **The form of an item is taken**, whatever the item holds. -/
theorem upsert_formBody (item : Item) {address : String} (hp : Path.ofString? address = some p) :
    r.upsert address (Form.decode (Text.encode item.formBody))
      = (.ok (if r.contains p then .updated else .created), r.put p (itemValues item)) := by
  rw [Item.formBody, Form.decode_encode, upsert, hp]
  dsimp only
  rw [values_pairs]

/-- **The write of an item is taken** and goes to the child of the folder under the key. -/
theorem post_eq (hp : Path.ofString? resource = some p) (hkey : Path.IsSegment item.key) :
    r.post resource item
      = (.ok (if r.contains ((itemsFolder p).child item.key) then .updated else .created),
        r.put ((itemsFolder p).child item.key) (itemValues item)) :=
  upsert_formBody item (Path.ofString?_item hp hkey)

theorem contains_post {q : Path} (resource : String) (item : Item) (h : r.contains q = true) :
    (r.post resource item).2.contains q = true := contains_upsert _ _ h

/-- The names in the folder after the write of an item. -/
theorem childNames_put (ht : IsTree r) :
    (r.put ((itemsFolder p).child key) values).childNames (itemsFolder p)
      = if key ∈ r.childNames (itemsFolder p) then r.childNames (itemsFolder p)
        else r.childNames (itemsFolder p) ++ [key] := by
  generalize itemsFolder p = f
  have hne : f ≠ f.child key := Path.ne_child f key
  rw [childNames, get?_put, if_neg hne]
  by_cases hc : r.contains (f.child key) = true
  · rw [if_pos ((mem_childNames ht).mpr hc), ensure_of_contains hc]
    rfl
  · rw [if_neg fun h => hc ((mem_childNames ht).mp h), get?_ensure_child hc, if_neg hne, if_pos rfl]
    -- the child is new, but its folder may have been there
    by_cases hf : r.contains f = true
    · obtain ⟨node, hnode⟩ := contains_iff.mp hf
      rw [ensure_of_contains hf, childNames, hnode]
      rfl
    · have hnone : r.get? f = none := not_contains_iff.mp hf
      have hnew : (r.ensure f).get? f = some Node.unstructured := by
        cases f with
        | root => exact absurd ht.root hf
        | child above name => rw [get?_ensure_child hf, if_pos rfl]
      rw [hnew, childNames, hnone]
      rfl

/-- The write of an item touches no other item of the list. -/
theorem get?_put_child_ne {other : String} (h : other ≠ key) (values : List (String × Value)) :
    (r.put (p.child key) values).get? (p.child other) = r.get? (p.child other) := by
  have hne : p.child other ≠ p.child key := fun he => h (Path.child.inj he).2
  rw [get?_put, if_neg hne]
  by_cases hc : r.contains (p.child key) = true
  · rw [ensure_of_contains hc]
  · rw [get?_ensure_child hc, if_neg hne, if_neg (Path.ne_child p other).symm,
      get?_ensure_of_depth (Nat.lt_succ_self _)]

/-- The node that is written holds what is set, and what it held before. -/
theorem get?_put_self (ht : IsTree r) (values : List (String × Value)) :
    ∃ node, (r.put p values).get? p = some (setting values node) := by
  refine ⟨(r.get? p).getD Node.unstructured, ?_⟩
  rw [get?_put, if_pos rfl, get?_ensure_self ht.root]
  rfl

/-- **What is told of the items one by one**, by `before` and after the write by `after`: what is told of
    the one that is written stands in its place, or last. -/
theorem map_childNames_put {α : Type} {before after : String → α} (ht : IsTree r)
    (hothers : ∀ other, other ≠ key → after other = before other) :
    ((r.put ((itemsFolder p).child key) values).childNames (itemsFolder p)).map after
      = if key ∈ r.childNames (itemsFolder p) then
          (r.childNames (itemsFolder p)).map fun k => if k = key then after key else before k
        else (r.childNames (itemsFolder p)).map before ++ [after key] := by
  rw [childNames_put ht]
  by_cases hmem : key ∈ r.childNames (itemsFolder p)
  · rw [if_pos hmem, if_pos hmem]
    refine List.map_congr_left fun k _ => ?_
    split
    · rename_i he
      rw [he]
    · rename_i hne
      exact hothers k hne
  · -- no name before the new one is its key
    rw [if_neg hmem, if_neg hmem, List.map_append, List.map_singleton]
    refine congrArg (· ++ [after key]) (List.map_congr_left fun k hk => ?_)
    exact hothers k fun he => hmem (he ▸ hk)

theorem entryAt_put_self (ht : IsTree r) :
    (r.put ((itemsFolder p).child item.key) (itemValues item)).entryAt p item.key = item.entry := by
  obtain ⟨node, hnode⟩ := get?_put_self (p := (itemsFolder p).child item.key) ht (itemValues item)
  rw [entryAt, hnode]
  exact entry_setting item node item.key

theorem entryAt_put_ne {other : String} (h : other ≠ item.key) :
    (r.put ((itemsFolder p).child item.key) (itemValues item)).entryAt p other = r.entryAt p other := by
  rw [entryAt, entryAt, get?_put_child_ne h]

/-- `es` with the entry of `item` in the place of the one with its key. -/
def overwrite (item : Item) (es : List Entry) : List Entry :=
  es.map fun e => if e.1 = item.key then item.entry else e

/-- **What the write of an item does to the list**: the entry with its key is overwritten in its
    place, or the entry of the item is appended. -/
theorem entries_put (ht : IsTree r) (hp : p.Addressable) (hkey : Path.IsSegment item.key) :
    (r.put ((itemsFolder p).child item.key) (itemValues item)).entries p
      = if item.key ∈ r.childNames (itemsFolder p) then overwrite item (r.entries p)
        else r.entries p ++ [item.entry] := by
  have haddress : ((itemsFolder p).child item.key).Addressable :=
    Or.inr ⟨Path.proper_itemsFolder hp, hkey⟩
  rw [entries_eq (ht.put haddress _), entries_eq ht, map_childNames_put ht fun _ => entryAt_put_ne,
    entryAt_put_self ht, overwrite, List.map_map]
  rfl

end Repository

end TodoSite
