/-
  The repository is a tree, however it has been written to.

  The tree is kept twice, as nodes by path and as lists of children, and `IsTree` says that the two
  agree: a path below another one is stored exactly when its last name stands in the list of that
  other node (`listed`), and no list names a child twice.

  CRUX (`IsTree.ensure`).  Making a missing node touches two entries, the node itself and the list of
  its parent.  Nothing below the new node can have been stored before: by `listed` its parent, the
  new node, would have been stored as well.
-/
import TodoSite.Proofs.Path
import TodoSite.Proofs.Traverse

namespace TodoSite.Repository

/-! ## Nodes by path -/

theorem get?_set (r : Repository) (p : Path) (node : Node) (q : Path) :
    (r.set p node).get? q = if q = p then some node else r.get? q := by
  unfold set get?
  induction r.nodes with
  | nil =>
    rw [setIn, List.find?_cons]
    by_cases h : q = p
    · rw [if_pos h, decide_eq_true h.symm]; rfl
    · rw [if_neg h, decide_eq_false fun he => h he.symm]
  | cons entry nodes ih =>
    rw [setIn]
    by_cases he : entry.1 = p
    · rw [if_pos he, List.find?_cons, List.find?_cons, he]
      by_cases h : q = p
      · rw [if_pos h, decide_eq_true h.symm]; rfl
      · rw [if_neg h, decide_eq_false fun hq => h hq.symm]
    · rw [if_neg he, List.find?_cons, List.find?_cons]
      by_cases hq : entry.1 = q
      · rw [decide_eq_true hq, if_neg fun h => he (hq.trans h)]
      · rw [decide_eq_false hq]; exact ih

theorem get?_modify (r : Repository) (p : Path) (f : Node → Node) (q : Path) :
    (r.modify p f).get? q = if q = p then (r.get? p).map f else r.get? q := by
  unfold modify
  by_cases h : q = p
  · subst h
    rw [if_pos rfl]
    split
    · rename_i hnone
      rw [hnone]; rfl
    · rename_i node hsome
      rw [get?_set, if_pos rfl, hsome]; rfl
  · rw [if_neg h]
    split
    · rfl
    · rw [get?_set, if_neg h]

variable {r : Repository} {p q : Path}

theorem at?_eq {address : String} (hp : Path.ofString? address = some p) : r.at? address = r.get? p := by
  rw [at?, hp]
  rfl

theorem contains_iff : r.contains p = true ↔ ∃ node, r.get? p = some node := by
  rw [contains, Option.isSome_iff_exists]

theorem not_contains_iff : ¬ r.contains p = true ↔ r.get? p = none := by
  rw [contains, Option.not_isSome_iff_eq_none]

/-! ## Making nodes -/

theorem ensure_of_contains (h : r.contains p = true) : r.ensure p = r := by
  cases p with
  | root => rfl
  | child parent name => rw [ensure, if_pos h]

/-- The node after its child `name` has been made. -/
def listing (name : String) (node : Node) : Node := { node with children := node.children ++ [name] }

/-- **What making a missing node does**, its ancestors being there. -/
theorem get?_ensure_child {parent : Path} {name : String} (h : ¬ r.contains (.child parent name) = true)
    (q : Path) :
    (r.ensure (.child parent name)).get? q
      = if q = .child parent name then some Node.unstructured
        else if q = parent then ((r.ensure parent).get? parent).map (listing name)
        else (r.ensure parent).get? q := by
  rw [ensure, if_neg h]
  show (((r.ensure parent).modify parent (listing name)).set _ _).get? q = _
  rw [get?_set, get?_modify]

/-- Making a node leaves everything alone that is deeper in the tree. -/
theorem get?_ensure_of_depth (h : p.depth < q.depth) : (r.ensure p).get? q = r.get? q := by
  induction p with
  | root => rfl
  | child parent name ih =>
    have hlt : parent.depth + 1 < q.depth := h
    by_cases hc : r.contains (.child parent name) = true
    · rw [ensure_of_contains hc]
    · -- `q` is deeper than the node itself, let alone than the one above it
      have hchild : q ≠ .child parent name := fun he => absurd (congrArg Path.depth he) (by
        show q.depth ≠ parent.depth + 1; omega)
      have hparent : q ≠ parent := fun he => absurd (congrArg Path.depth he) (by omega)
      rw [get?_ensure_child hc, if_neg hchild, if_neg hparent, ih (by omega)]

theorem contains_ensure_of_contains (h : r.contains q = true) : (r.ensure p).contains q = true := by
  induction p with
  | root => exact h
  | child parent name ih =>
    by_cases hc : r.contains (.child parent name) = true
    · rw [ensure_of_contains hc]; exact h
    · rw [contains, get?_ensure_child hc]
      split
      · rfl
      · split
        · rename_i he
          subst he
          rw [Option.isSome_map]; exact ih
        · exact ih

/-- A node that is made is as it was, or new. -/
theorem get?_ensure_self (hroot : r.contains .root = true) :
    (r.ensure p).get? p = some ((r.get? p).getD Node.unstructured) := by
  by_cases hc : r.contains p = true
  · obtain ⟨node, hnode⟩ := contains_iff.mp hc
    rw [ensure_of_contains hc, hnode]
    rfl
  · cases p with
    | root => exact absurd hroot hc
    | child parent name =>
      rw [get?_ensure_child hc, if_pos rfl, not_contains_iff.mp hc]
      rfl

theorem contains_ensure (hroot : r.contains .root = true) : (r.ensure p).contains p = true := by
  rw [contains, get?_ensure_self hroot]
  rfl

/-! ## Trees -/

/-- The nodes and the lists of children agree. -/
structure IsTree (r : Repository) : Prop where
  /-- The root is stored. -/
  root : r.contains .root = true
  /-- Every stored path is one that an address can stand for. -/
  addressable : ∀ p, r.contains p = true → p.Addressable
  /-- A path is stored exactly when the node above it lists its last name. -/
  listed : ∀ p name, r.contains (.child p name) = true ↔
    ∃ node, r.get? p = some node ∧ name ∈ node.children
  /-- No child is listed twice. -/
  nodup : ∀ p node, r.get? p = some node → node.children.Nodup

theorem isTree_new : IsTree {} where
  root := rfl
  addressable p hp := by
    obtain ⟨node, hnode⟩ := contains_iff.mp hp
    by_cases h : p = .root
    · exact h ▸ Or.inr trivial
    · have hnone : ({} : Repository).get? p = none := by
        unfold get?
        rw [List.find?_cons, decide_eq_false fun he => h he.symm]; rfl
      rw [hnone] at hnode; cases hnode
  listed p name := by
    constructor
    · intro h; cases h
    · rintro ⟨node, hnode, hname⟩
      by_cases h : Path.root = p
      · subst h
        cases Option.some.inj hnode
        cases hname
      · unfold get? at hnode
        rw [List.find?_cons, decide_eq_false h] at hnode; cases hnode
  nodup p node hnode := by
    unfold get? at hnode
    by_cases h : Path.root = p
    · rw [List.find?_cons, decide_eq_true h] at hnode
      cases Option.some.inj hnode
      exact List.nodup_nil
    · rw [List.find?_cons, decide_eq_false h] at hnode; cases hnode

namespace IsTree

theorem contains_parent {name : String} (ht : IsTree r) (h : r.contains (.child p name) = true) :
    r.contains p = true := by
  obtain ⟨node, hnode, -⟩ := (ht.listed p name).mp h
  exact contains_iff.mpr ⟨node, hnode⟩

/-- Being a tree is a matter of which paths are stored and which children they list. -/
theorem congr {r' : Repository} (ht : IsTree r)
    (h : ∀ q, (r'.get? q).map Node.children = (r.get? q).map Node.children) : IsTree r' := by
  have hcontains : ∀ q, r'.contains q = r.contains q := by
    intro q
    rw [contains, contains, ← Option.isSome_map (f := Node.children), h q, Option.isSome_map]
  have hback : ∀ q node', r'.get? q = some node' →
      ∃ node, r.get? q = some node ∧ node.children = node'.children := by
    intro q node' hnode'
    have hq := h q
    rw [hnode', Option.map_some] at hq
    exact Option.map_eq_some_iff.mp hq.symm
  constructor
  · rw [hcontains]; exact ht.root
  · intro q hq; rw [hcontains] at hq; exact ht.addressable q hq
  · intro q name
    rw [hcontains, ht.listed q name]
    constructor
    · rintro ⟨node, hnode, hname⟩
      have hq := h q
      rw [hnode, Option.map_some] at hq
      obtain ⟨node', hnode', heq⟩ := Option.map_eq_some_iff.mp hq
      exact ⟨node', hnode', heq ▸ hname⟩
    · rintro ⟨node', hnode', hname⟩
      obtain ⟨node, hnode, heq⟩ := hback q node' hnode'
      exact ⟨node, hnode, heq ▸ hname⟩
  · intro q node' hnode'
    obtain ⟨node, hnode, heq⟩ := hback q node' hnode'
    exact heq ▸ ht.nodup q node hnode

/-- One more child under a stored node: the step that `ensure` repeats. -/
theorem insert_child {name : String} {r' : Repository} (ht : IsTree r) (hp : r.contains p = true)
    (hnew : ¬ r.contains (.child p name) = true) (hadd : (Path.child p name).Addressable)
    (hget : ∀ q, r'.get? q = if q = .child p name then some Node.unstructured
      else if q = p then (r.get? p).map (listing name) else r.get? q) :
    IsTree r' := by
  obtain ⟨above, habove⟩ := contains_iff.mp hp
  have hne : p ≠ .child p name := Path.ne_child p name
  have hcontains : ∀ q, r'.contains q = true ↔ q = .child p name ∨ r.contains q = true := by
    intro q
    rw [contains, hget q]
    split
    · rename_i he
      exact ⟨fun _ => Or.inl he, fun _ => rfl⟩
    · rename_i hq
      split
      · rename_i he
        subst he
        rw [Option.isSome_map]
        exact ⟨Or.inr, fun h => h.resolve_left hq⟩
      · exact ⟨Or.inr, fun h => h.resolve_left hq⟩
  have hat : r'.get? p = some (listing name above) := by
    rw [hget p, if_neg hne, if_pos rfl, habove]; rfl
  have hchild : r'.get? (.child p name) = some Node.unstructured := by rw [hget, if_pos rfl]
  have helse : ∀ q, q ≠ .child p name → q ≠ p → r'.get? q = r.get? q := by
    intro q h1 h2
    rw [hget q, if_neg h1, if_neg h2]
  constructor
  · exact (hcontains _).mpr (Or.inr ht.root)
  · intro q hq
    rcases (hcontains q).mp hq with rfl | hq
    · exact hadd
    · exact ht.addressable q hq
  · intro q n
    rw [hcontains]
    by_cases h1 : q = .child p name
    · -- nothing was stored below the new node
      subst h1
      constructor
      · rintro (he | hc)
        · exact absurd (Path.child.inj he).1.symm hne
        · exact absurd (ht.contains_parent hc) hnew
      · rintro ⟨node, hnode, hn⟩
        rw [hchild] at hnode
        cases Option.some.inj hnode
        cases hn
    -- the node above lists the new child and what it has listed before
    by_cases h2 : q = p
    · subst h2
      constructor
      · rintro (he | hc)
        · refine ⟨_, hat, ?_⟩
          rw [(Path.child.inj he).2]
          exact List.mem_append_right _ (List.mem_singleton.mpr rfl)
        · obtain ⟨node, hnode, hn⟩ := (ht.listed q n).mp hc
          rw [habove] at hnode
          cases Option.some.inj hnode
          exact ⟨_, hat, List.mem_append_left _ hn⟩
      · rintro ⟨node, hnode, hn⟩
        rw [hat] at hnode
        cases Option.some.inj hnode
        rcases List.mem_append.mp hn with hn | hn
        · exact Or.inr ((ht.listed q n).mpr ⟨above, habove, hn⟩)
        · exact Or.inl (by rw [List.mem_singleton.mp hn])
    · rw [helse q h1 h2, ← ht.listed q n]
      exact ⟨fun h => h.resolve_left fun he => h2 (Path.child.inj he).1, Or.inr⟩
  · intro q node hnode
    by_cases h1 : q = .child p name
    · subst h1
      rw [hchild] at hnode
      cases Option.some.inj hnode
      exact List.nodup_nil
    by_cases h2 : q = p
    · subst h2
      rw [hat] at hnode
      cases Option.some.inj hnode
      -- what is listed is stored, and the new child was not
      have hfresh : name ∉ above.children := fun hm => hnew ((ht.listed q name).mpr ⟨above, habove, hm⟩)
      refine List.nodup_append.mpr ⟨ht.nodup q above habove, List.nodup_cons.mpr
        ⟨List.not_mem_nil, List.nodup_nil⟩, fun a ha b hb => ?_⟩
      rw [List.mem_singleton.mp hb]
      rintro rfl
      exact hfresh ha
    · rw [helse q h1 h2] at hnode
      exact ht.nodup q node hnode

/-- **Making a node and its ancestors** leaves a tree. -/
theorem ensure (ht : IsTree r) (hp : p.Addressable) : IsTree (r.ensure p) := by
  induction p with
  | root => exact ht
  | child parent name ih =>
    by_cases hc : r.contains (.child parent name) = true
    · rw [ensure_of_contains hc]; exact ht
    · -- making the nodes above has not made this one: it is deeper
      have hparent := ih (Or.inr hp.parent)
      have hmissing : ¬ (r.ensure parent).contains (.child parent name) = true := by
        rw [contains, get?_ensure_of_depth (Nat.lt_succ_self _)]
        exact hc
      exact hparent.insert_child (contains_ensure ht.root) hmissing hp (get?_ensure_child hc)

end IsTree

/-! ## Writing -/

/-- A node with more properties. -/
def setting (values : List (String × Value)) (node : Node) : Node :=
  { node with properties := node.properties.insertAll values }

theorem get?_put (r : Repository) (p : Path) (values : List (String × Value)) (q : Path) :
    (r.put p values).get? q
      = if q = p then ((r.ensure p).get? p).map (setting values) else (r.ensure p).get? q :=
  get?_modify _ _ _ _

theorem contains_put (r : Repository) (p : Path) (values : List (String × Value)) (q : Path) :
    (r.put p values).contains q = (r.ensure p).contains q := by
  rw [contains, get?_put]
  split
  · rename_i he
    rw [he, Option.isSome_map]; rfl
  · rfl

/-- The refusal of a value names the field, the hint and the value. -/
theorem value_eq_error {fields : Fields} {field : String × String} {e : RepositoryError}
    (h : fields.value field = .error e) :
    ∃ hint, e = .invalidValue field.1 hint field.2 := by
  unfold Fields.value at h
  split at h
  · cases h
  · split at h
    · split at h
      · cases h
      · exact ⟨_, (Except.error.inj h).symm⟩
    · cases h

/-- **A write that is refused** leaves the tree as it was.  The address is none, or a value does not fit. -/
theorem upsert_eq_error {address : String} {fields : Fields} {e : RepositoryError}
    (h : (r.upsert address fields).1 = .error e) :
    (r.upsert address fields).2 = r
      ∧ (e = .invalidPath address ∨ ∃ property hint value, e = .invalidValue property hint value) := by
  unfold upsert at h ⊢
  split at h
  · exact ⟨rfl, Or.inl (Except.error.inj h).symm⟩
  · split at h
    · rename_i hvalues
      obtain ⟨-, field, -, -, hfield, -⟩ := mapM_eq_error_iff.mp hvalues
      obtain ⟨hint, he⟩ := value_eq_error hfield
      exact ⟨rfl, Or.inr ⟨_, hint, _, Except.error.inj h ▸ he⟩⟩
    · cases h

/-- **A write that is taken** makes a node just where there was none. -/
theorem upsert_eq_ok {address : String} {fields : Fields} {outcome : Upsert}
    (h : (r.upsert address fields).1 = .ok outcome) :
    outcome = if r.at? address = none then .created else .updated := by
  unfold upsert at h
  split at h
  · cases h
  · rename_i p hp
    split at h
    · cases h
    · have houtcome := Except.ok.inj h
      rw [at?_eq hp, ← houtcome]
      by_cases hc : r.contains p = true
      · obtain ⟨node, hnode⟩ := contains_iff.mp hc
        simp [hc, hnode]
      · simp [hc, not_contains_iff.mp hc]

/-- No write takes a node away. -/
theorem contains_upsert (address : String) (fields : Fields) (h : r.contains q = true) :
    (r.upsert address fields).2.contains q = true := by
  unfold Repository.upsert
  split
  · exact h
  · split
    · exact h
    · rw [contains_put]
      exact contains_ensure_of_contains h

theorem IsTree.put (ht : IsTree r) (hp : p.Addressable) (values : List (String × Value)) :
    IsTree (r.put p values) := by
  refine (ht.ensure hp).congr fun q => ?_
  rw [get?_put]
  split
  · rename_i he
    rw [he, Option.map_map]; rfl
  · rfl

theorem IsTree.upsert (ht : IsTree r) (address : String) (fields : Fields) :
    IsTree (r.upsert address fields).2 := by
  unfold Repository.upsert
  split
  · exact ht
  · rename_i p hp
    split
    · exact ht
    · exact ht.put (Path.ofString?_addressable hp) _

theorem IsTree.seedItems (base : String) {items : List Item} (ht : IsTree r) :
    IsTree (Repository.seedItems base r items).2 := by
  induction items generalizing r with
  | nil => exact ht
  | cons item items ih =>
    have hnext := ht.upsert (Address.item base item.key) (seedFields item)
    rw [Repository.seedItems]
    split
    · rename_i heq
      rw [heq] at hnext; exact ih hnext
    · rename_i heq
      rw [heq] at hnext; exact hnext

theorem IsTree.seed (ht : IsTree r) (address title : String) (items : List Item) :
    IsTree (r.seed address title items).2 := by
  have hnext := ht.upsert address [(titleProperty, title)]
  unfold Repository.seed
  split
  · rename_i heq
    rw [heq] at hnext; exact hnext
  · rename_i heq
    rw [heq] at hnext
    split
    · exact hnext
    · exact hnext.seedItems _

/-! ## Reachable repositories -/

/-- A repository that writes and seeds can lead to, from the one with nothing but its root. -/
inductive Reachable : Repository → Prop where
  /-- At first there is the root alone. -/
  | new : Reachable {}
  /-- A write, taken or refused. -/
  | upsert {r : Repository} (address : String) (fields : Fields) :
    Reachable r → Reachable (r.upsert address fields).2
  /-- A list that is seeded, as far as this gets. -/
  | seed {r : Repository} (address title : String) (items : List Item) :
    Reachable r → Reachable (r.seed address title items).2

/-- **Every reachable repository is a tree.** -/
theorem Reachable.isTree (h : Reachable r) : IsTree r := by
  induction h with
  | new => exact isTree_new
  | upsert address fields _ ih => exact ih.upsert address fields
  | seed address title items _ ih => exact ih.seed address title items

end TodoSite.Repository
