/-
  What a write does to each node of the tree.

  A write to `p` leaves alone what is not on the way to `p`, but for one list of children: the node above
  the first one that is made gets a name more.

  1. **Properties** (`propertiesAt_put`) — a node on the way keeps its properties, or gets those of a new
     node; the node at `p` gets the written ones on top.

  2. **What is stored** (`contains_ensure_iff`) — the nodes on the way are, besides those that were.

  3. **Lists of children** (`childNames_ensure`) — a list stays as it was if none of its names is that of a
     new node.
-/
import TodoSite.Proofs.Path.Way
import TodoSite.Proofs.Repository.Items

namespace TodoSite.Repository

/-- The properties of the node at a path, if there is one. -/
def propertiesAt (r : Repository) (p : Path) : Option (NameMap Value) :=
  (r.get? p).map Node.properties

variable {r : Repository} {p q : Path}

theorem isSome_propertiesAt (r : Repository) (p : Path) : (r.propertiesAt p).isSome = r.contains p :=
  Option.isSome_map

theorem propertiesAt_eq_none (h : ¬ r.contains p = true) : r.propertiesAt p = none := by
  rw [propertiesAt, not_contains_iff.mp h]
  rfl

/-! ## Above a stored node -/

/-- Whatever is above a stored node is stored. -/
theorem IsTree.contains_of_mem_way (ht : IsTree r) (h : r.contains p = true) (hq : q ∈ p.way) :
    r.contains q = true := by
  induction p with
  | root => rw [List.mem_singleton.mp hq]; exact h
  | child parent name ih =>
    rcases Path.mem_way_child.mp hq with rfl | hq
    · exact h
    · exact ih (ht.contains_parent h) hq

/-! ## Properties -/

theorem some_getD_propertiesAt (h : r.contains p = true) (new : NameMap Value) :
    some ((r.propertiesAt p).getD new) = r.propertiesAt p := by
  obtain ⟨node, hnode⟩ := contains_iff.mp h
  rw [propertiesAt, hnode]
  rfl

/-- Making nodes gives the properties of a new node to those that are missing on the way. -/
theorem propertiesAt_ensure (ht : IsTree r) (p q : Path) :
    (r.ensure p).propertiesAt q
      = if q ∈ p.way then some ((r.propertiesAt q).getD Node.unstructured.properties)
        else r.propertiesAt q := by
  induction p with
  | root =>
    split
    · rename_i hq
      rw [List.mem_singleton.mp hq, some_getD_propertiesAt ht.root]
      rfl
    · rfl
  | child parent name ih =>
    by_cases hc : r.contains (.child parent name) = true
    · -- nothing is made, for all on the way is stored
      rw [ensure_of_contains hc]
      split
      · rename_i hq
        exact (some_getD_propertiesAt (ht.contains_of_mem_way hc hq) _).symm
      · rfl
    · rw [propertiesAt, get?_ensure_child hc]
      by_cases hchild : q = .child parent name
      · subst hchild
        rw [if_pos rfl, if_pos (Path.mem_way_self _), propertiesAt_eq_none hc]
        rfl
      · -- the list of the node above grows, its properties do not change
        have habove : (if q = parent then ((r.ensure parent).get? parent).map (listing name)
            else (r.ensure parent).get? q).map Node.properties = (r.ensure parent).propertiesAt q := by
          split
          · rename_i he
            rw [he, Option.map_map]
            rfl
          · rfl
        rw [if_neg hchild, habove, ih]
        simp only [Path.mem_way_child, hchild, false_or]

/-- **What is stored** after nodes have been made: those on the way, and those that were. -/
theorem contains_ensure_iff (ht : IsTree r) :
    (r.ensure p).contains q = true ↔ q ∈ p.way ∨ r.contains q = true := by
  rw [← isSome_propertiesAt, propertiesAt_ensure ht, ← isSome_propertiesAt]
  split
  · rename_i hq
    exact ⟨fun _ => Or.inl hq, fun _ => rfl⟩
  · rename_i hq
    exact ⟨Or.inr, fun h => h.resolve_left hq⟩

/-- **Properties after a write.** -/
theorem propertiesAt_put (ht : IsTree r) (p : Path) (values : List (String × Value)) (q : Path) :
    (r.put p values).propertiesAt q
      = if q = p then
          some (((r.propertiesAt p).getD Node.unstructured.properties).insertAll values)
        else if q ∈ p.way then some ((r.propertiesAt q).getD Node.unstructured.properties)
        else r.propertiesAt q := by
  rw [propertiesAt, get?_put]
  split
  · rename_i he
    subst he
    have hmap : Option.map Node.properties (((r.ensure q).get? q).map (setting values))
        = ((r.ensure q).propertiesAt q).map fun properties => properties.insertAll values := by
      rw [propertiesAt, Option.map_map, Option.map_map]
      rfl
    rw [hmap, propertiesAt_ensure ht, if_pos (Path.mem_way_self q)]
    rfl
  · exact propertiesAt_ensure ht p q

/-- A node that is stored keeps its properties, unless it is the one that is written. -/
theorem propertiesAt_put_of_stored (ht : IsTree r) (hstored : r.contains q = true) (hne : q ≠ p)
    (values : List (String × Value)) : (r.put p values).propertiesAt q = r.propertiesAt q := by
  rw [propertiesAt_put ht, if_neg hne, some_getD_propertiesAt hstored]
  exact ite_self _

/-! ## Lists of children -/

/-- **A list of children stays** as it was where no new node belongs to it. -/
theorem childNames_ensure (h : ∀ name, Path.child q name ∈ p.way → r.contains (.child q name) = true) :
    (r.ensure p).childNames q = r.childNames q := by
  induction p with
  | root => rfl
  | child parent name ih =>
    by_cases hc : r.contains (.child parent name) = true
    · rw [ensure_of_contains hc]
    · have hparent : q ≠ parent := by
        rintro rfl
        exact hc (h name (Path.mem_way_self _))
      rw [childNames, get?_ensure_child hc, if_neg hparent]
      split
      · -- a new node has no children, and none had been listed for it
        rename_i he
        rw [he, childNames, not_contains_iff.mp hc]
        rfl
      · exact ih fun n hn => h n (Path.mem_way_child.mpr (Or.inr hn))

theorem childNames_put_eq (r : Repository) (p : Path) (values : List (String × Value)) (q : Path) :
    (r.put p values).childNames q = (r.ensure p).childNames q := by
  rw [childNames, get?_put]
  split
  · rename_i he
    rw [he, Option.map_map]
    rfl
  · rfl

end TodoSite.Repository
