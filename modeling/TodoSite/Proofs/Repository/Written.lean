/-
  The tree under written paths.

  The repository keeps its nodes by path.  From outside a node is known by its written path, which tells
  the node above and the name under which that one lists it (`Path.split`).  Said in these terms:

  1. **The two ways in which the tree is kept agree** (`IsWrittenTree`): the node above a stored one is
     stored and lists it once, and nothing is listed that is not stored.

  2. **Making a node comes to an end** (`makes_ensure`) — it is done for the node above first, and so on
     upwards.  This ends because the root is stored, and it is stored in every tree.

  3. **Nothing above a stored node is missed** when it is looked up by its address.  The node whose
     written path is the empty text has no address of its own, but it is above no other node.
-/
import Mathlib.Data.List.Nodup
import Mathlib.Logic.Function.Iterate
import TodoSite.Proofs.Path.Written
import TodoSite.Proofs.Repository.Tree

namespace TodoSite.Repository

/-! ## Nodes by written path -/

/-- The node that is stored under a written path. -/
def written? (r : Repository) (written : String) : Option Node :=
  (r.nodes.find? fun entry => entry.1.render = written).map (·.2)

variable {r : Repository} {p : Path} {written : String} {node : Node}

theorem contains_of_mem_nodes {entry : Path × Node} (h : entry ∈ r.nodes) : r.contains entry.1 = true := by
  rw [contains, get?, Option.isSome_map, List.find?_isSome]
  exact ⟨entry, h, decide_eq_true rfl⟩

/-- **A stored node is found under its written path**, because no two paths are written alike. -/
theorem written?_render (ht : IsTree r) (hp : p.Addressable) : r.written? p.render = r.get? p := by
  have hall : ∀ entry ∈ r.nodes, entry.1.Addressable := fun entry h =>
    ht.addressable entry.1 (contains_of_mem_nodes h)
  unfold written? get?
  refine congrArg (Option.map Prod.snd) ?_
  generalize r.nodes = nodes at hall
  induction nodes with
  | nil => rfl
  | cons entry nodes ih =>
    obtain ⟨hentry, hrest⟩ := List.forall_mem_cons.mp hall
    rw [List.find?_cons, List.find?_cons, ih hrest]
    have hsame : entry.1.render = p.render ↔ entry.1 = p := ⟨Path.render_inj hentry hp, congrArg Path.render⟩
    rw [decide_eq_decide.mpr hsame]

theorem written?_eq_some (ht : IsTree r) (h : r.written? written = some node) :
    ∃ p : Path, p.Addressable ∧ p.render = written ∧ r.get? p = some node := by
  obtain ⟨entry, hentry, -⟩ := Option.map_eq_some_iff.mp h
  have hwritten : entry.1.render = written := by
    simpa using List.find?_some hentry
  have hadd : entry.1.Addressable := ht.addressable _ (contains_of_mem_nodes (List.mem_of_find?_eq_some hentry))
  exact ⟨entry.1, hadd, hwritten, by rw [← written?_render ht hadd, hwritten, h]⟩

theorem written?_eq_none (ht : IsTree r) (h : ¬ ∃ p : Path, p.Addressable ∧ p.render = written) :
    r.written? written = none := by
  cases hw : r.written? written with
  | none => rfl
  | some node =>
    obtain ⟨p, hp, hwritten, -⟩ := written?_eq_some ht hw
    exact absurd ⟨p, hp, hwritten⟩ h

/-! ## Making a node -/

/-- `Makes r written r'`: making the node at a written path in `r` comes to an end, with `r'`. -/
inductive Makes : Repository → String → Repository → Prop where
  /-- Nothing is done where the node is stored. -/
  | stored {r : Repository} {written : String} (h : (r.written? written).isSome) : Makes r written r
  /-- Otherwise the node above is made, which leads to `above`; it lists the last name behind those that
      it has listed before, and the new node is stored. -/
  | missing {r above r' : Repository} {written : String} (hnone : r.written? written = none)
    (habove : Makes r (Path.split written).1 above)
    (hlook : ∀ text, r'.written? text
      = if text = written then some Node.unstructured
        else if text = (Path.split written).1 then (above.written? text).map (listing (Path.split written).2)
        else above.written? text) :
    Makes r written r'

/-- **Making a node comes to an end**, at every address. -/
theorem makes_ensure (ht : IsTree r) (hp : p.Addressable) : Makes r p.render (r.ensure p) := by
  induction p with
  | root => exact .stored (by rw [written?_render ht hp]; exact ht.root)
  | child parent name ih =>
    by_cases hc : r.contains (.child parent name) = true
    · rw [ensure_of_contains hc]
      exact .stored (by rw [written?_render ht hp]; exact hc)
    · have hparent : parent.Addressable := Or.inr hp.parent
      have hsplit := Path.split_render hp
      have hnone : r.written? (Path.child parent name).render = none := by
        rw [written?_render ht hp]
        exact not_contains_iff.mp hc
      have habove : Makes r (Path.split (Path.child parent name).render).1 (r.ensure parent) := by
        rw [hsplit]
        exact ih hparent
      refine .missing hnone habove fun text => ?_
      · rw [hsplit]
        show _ = if text = _ then _ else if text = parent.render then Option.map (listing name) _ else _
        by_cases htext : ∃ q : Path, q.Addressable ∧ q.render = text
        · -- texts that are written paths are compared like the paths
          obtain ⟨q, hq, rfl⟩ := htext
          have hself : q.render = (Path.child parent name).render ↔ q = .child parent name :=
            ⟨Path.render_inj hq hp, congrArg Path.render⟩
          have habove : q.render = parent.render ↔ q = parent :=
            ⟨Path.render_inj hq hparent, congrArg Path.render⟩
          rw [written?_render (ht.ensure hp) hq, written?_render (ht.ensure hparent) hq, get?_ensure_child hc]
          simp only [hself, habove]
          split
          · rfl
          · split
            · rename_i he
              rw [he]
            · rfl
        · have hself : text ≠ (Path.child parent name).render := fun he => htext ⟨_, hp, he.symm⟩
          have habove : text ≠ parent.render := fun he => htext ⟨_, hparent, he.symm⟩
          rw [if_neg hself, if_neg habove, written?_eq_none (ht.ensure hp) htext,
            written?_eq_none (ht.ensure hparent) htext]

/-! ## Above a stored node -/

/-- The node that is `n` names above one, as they are written. -/
def ancestor (n : Nat) (written : String) : String := (fun text => (Path.split text).1)^[n] written

theorem contains_above (ht : IsTree r) (h : r.contains p = true) : r.contains p.above = true := by
  cases p with
  | root => exact ht.root
  | child parent name => exact ht.contains_parent h

/-- Whatever is above a stored node is stored, under a proper path. -/
theorem ancestor_render (ht : IsTree r) (hp : p.Addressable) (h : r.contains p = true) (n : Nat) :
    ∃ q : Path, ancestor (n + 1) p.render = q.render ∧ q.Proper ∧ r.contains q = true := by
  induction n with
  | zero => exact ⟨p.above, congrArg Prod.fst (Path.split_render hp), hp.above, contains_above ht h⟩
  | succ n ih =>
    obtain ⟨q, hq, hproper, hc⟩ := ih
    refine ⟨q.above, ?_, Path.Addressable.above (Or.inr hproper), contains_above ht hc⟩
    rw [ancestor, Function.iterate_succ_apply']
    show (Path.split (ancestor (n + 1) p.render)).1 = _
    rw [hq, Path.split_render (Or.inr hproper)]

/-- **A node above a stored one is found** when it is looked up. -/
theorem at?_ancestor (ht : IsTree r) (hstored : (r.written? written).isSome) (n : Nat) :
    ∃ node, r.at? (ancestor (n + 1) written) = some node ∧ r.written? (ancestor (n + 1) written) = some node := by
  obtain ⟨node, hnode⟩ := Option.isSome_iff_exists.mp hstored
  obtain ⟨p, hp, rfl, hget⟩ := written?_eq_some ht hnode
  obtain ⟨q, hq, hproper, hc⟩ := ancestor_render ht hp (contains_iff.mpr ⟨node, hget⟩) n
  obtain ⟨found, hfound⟩ := contains_iff.mp hc
  refine ⟨found, ?_, ?_⟩
  · rw [hq, at?_eq (Path.ofString?_render hproper)]
    exact hfound
  · rw [hq, written?_render ht (Or.inr hproper)]
    exact hfound

/-! ## Lists of children -/

/-- The node above a stored one lists it once. -/
theorem count_split (ht : IsTree r) (hstored : (r.written? written).isSome) (hne : written ≠ "/") :
    ∃ node, r.written? (Path.split written).1 = some node ∧ node.children.count (Path.split written).2 = 1 := by
  obtain ⟨node, hnode⟩ := Option.isSome_iff_exists.mp hstored
  obtain ⟨p, hp, rfl, hget⟩ := written?_eq_some ht hnode
  cases p with
  | root => exact absurd rfl hne
  | child parent name =>
    obtain ⟨above, habove, hname⟩ := (ht.listed parent name).mp (contains_iff.mpr ⟨node, hget⟩)
    rw [Path.split_render hp]
    refine ⟨above, (written?_render ht (Or.inr hp.parent)).trans habove, ?_⟩
    show above.children.count name = 1
    rw [(ht.nodup parent above habove).count, if_pos hname]

/-- What a stored node lists is stored. -/
theorem exists_of_mem_children {name : String} (ht : IsTree r) (hnode : r.written? written = some node)
    (hname : name ∈ node.children) :
    ∃ below, below ≠ "/" ∧ (r.written? below).isSome ∧ Path.split below = (written, name) := by
  obtain ⟨p, -, rfl, hget⟩ := written?_eq_some ht hnode
  have hstored : r.contains (.child p name) = true := (ht.listed p name).mpr ⟨node, hget, hname⟩
  have hadd := ht.addressable _ hstored
  refine ⟨(Path.child p name).render, fun he => ?_, ?_, Path.split_render hadd⟩
  · have hroot : Path.child p name = .root := Path.render_inj hadd (Or.inr trivial) he
    cases hroot
  · rw [written?_render ht hadd]
    exact hstored

/-! ## Trees -/

/-- What holds of a tree, said of written paths. -/
structure IsWrittenTree (r : Repository) : Prop where
  /-- The root is stored. -/
  root : (r.written? "/").isSome
  /-- The node above a stored one is stored, and lists it once. -/
  above : ∀ written, (r.written? written).isSome → written ≠ "/" →
    ∃ node, r.written? (Path.split written).1 = some node ∧ node.children.count (Path.split written).2 = 1
  /-- What a stored node lists is stored. -/
  listed : ∀ written node name, r.written? written = some node → name ∈ node.children →
    ∃ below, below ≠ "/" ∧ (r.written? below).isSome ∧ Path.split below = (written, name)
  /-- No list names a child twice. -/
  nodup : ∀ written node, r.written? written = some node → node.children.Nodup
  /-- Making a node comes to an end, at every address. -/
  makes : ∀ address p, Path.ofString? address = some p → Makes r p.render (r.ensure p)
  /-- A node above a stored one is found when it is looked up. -/
  found : ∀ written n, (r.written? written).isSome →
    ∃ node, r.at? (ancestor (n + 1) written) = some node ∧ r.written? (ancestor (n + 1) written) = some node

/-- **Every repository that can be reached is a tree under its written paths.** -/
theorem Reachable.isWrittenTree (h : Reachable r) : IsWrittenTree r where
  root := by
    have hroot : Path.Addressable .root := Or.inr trivial
    show (r.written? Path.root.render).isSome
    rw [written?_render h.isTree hroot]
    exact h.isTree.root
  above _ hstored hne := count_split h.isTree hstored hne
  listed _ _ _ hnode hname := exists_of_mem_children h.isTree hnode hname
  nodup _ node hnode := by
    obtain ⟨p, -, -, hget⟩ := written?_eq_some h.isTree hnode
    exact h.isTree.nodup p node hget
  makes _ _ hp := makes_ensure h.isTree (Path.ofString?_addressable hp)
  found _ n hstored := at?_ancestor h.isTree hstored n

/-- A tree with the node that slashes lead to, after a write that is refused and a list that is seeded
    up to an item whose key is no name. -/
theorem isWrittenTree_nameless :
    let r := (((({} : Repository).upsert "//" []).2.upsert "/a//b" []).2.seed "/l/" "L"
      [{ name := "Buy milk", key := "1" }, { name := "Pay rent", key := ".." }]).2
    Reachable r
      ∧ ["/", "", "/l", "/l/items", "/l/items/1"].map (fun written => (r.written? written).map Node.children)
        = [some ["", "l"], some [], some ["items"], some ["1"], some []]
      ∧ IsWrittenTree r := by
  intro r
  have hr : Reachable r := .seed _ _ _ (.upsert _ _ (.upsert _ _ .new))
  exact ⟨hr, by decide +kernel, Reachable.isWrittenTree hr⟩

end TodoSite.Repository
