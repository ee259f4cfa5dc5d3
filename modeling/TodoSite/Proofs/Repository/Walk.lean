/-
  Walking through the tree from outside.

  From outside, the tree is walked by asking for the children at an address, then for those at each of the
  paths that come back, and so on (`Walked`).

  1. **Children** (`exists_ancestor_mem_childPaths_iff`) — no node lists itself or one above it, apart from
     the root where the nameless node is stored.

  2. **The walk is the tree in preorder** (`walked_below`, `mem_below`, `nodup_below`) — from the root it
     comes to an end, and visits what is stored, each node once.  This is an induction on how deep the tree
     is below a node; the nodes below two children have nothing in common, because there is one node of
     each depth on the way to a node.

  3. **It has no end where the nameless node is stored** (`not_walked_of_nameless`), which a write to
     slashes alone brings about and no other (`contains_nameless_upsert`).

  CRUX.  The nameless node is a child of the root, with the empty name.  A slash and the empty name are the
  root's path, so the root lists itself, and nothing leads to the nameless node.
-/
import Mathlib.Data.Finset.Dedup
import Mathlib.Data.Finset.Order
import TodoSite.Proofs.Path.Canonical
import TodoSite.Proofs.Path.Way
import TodoSite.Proofs.Repository.Effect
import TodoSite.Proofs.Repository.Written

namespace TodoSite.Repository

variable {r : Repository} {p q : Path} {pending visited : List String}

/-! ## Children -/

/-- What is above a node, as it is written, is on the way to it. -/
theorem exists_mem_way_ancestor (hp : p.Addressable) (n : Nat) :
    ∃ q ∈ p.way, q.Addressable ∧ ancestor n p.render = q.render := by
  induction n with
  | zero => exact ⟨p, Path.mem_way_self p, hp, rfl⟩
  | succ n ih =>
    obtain ⟨q, hway, hq, hn⟩ := ih
    refine ⟨q.above, Path.mem_way_trans (Path.above_mem_way q) hway, Or.inr hq.above, ?_⟩
    rw [ancestor, Function.iterate_succ_apply']
    show (Path.split (ancestor n p.render)).1 = _
    rw [hn, Path.split_render hq]

/-- The paths of the children at an address, as they are written. -/
def childPaths (r : Repository) (address : String) : List String :=
  (r.children address).map fun child => child.1.render

theorem childPaths_eq (ht : IsTree r) {address : String} (hp : Path.ofString? address = some p) :
    r.childPaths address = (r.childNames p).map fun name => (p.entry name).render := by
  rw [childPaths, children, hp]
  show (r.childrenOf p).map _ = _
  rw [childrenOf_eq ht, List.map_map]
  rfl

/-- A child is under the node that lists it; but the root lists itself in the place of the nameless node. -/
theorem entry_eq_of_contains (ht : IsTree r) {name : String} (h : r.contains (.child p name) = true) :
    p.entry name = .child p name ∨ (p = .root ∧ p.entry name = .root ∧ r.contains .nameless = true) := by
  have hproper : p.Proper := (ht.addressable _ h).parent
  rw [Path.entry, if_neg hproper.ne_nameless]
  split
  · rename_i hroot
    obtain ⟨rfl, rfl⟩ := hroot
    exact Or.inr ⟨rfl, rfl, h⟩
  · exact Or.inl rfl

/-- Without the nameless node, the children of a stored node are those under it. -/
theorem childPaths_render (ht : IsTree r) (hnone : ¬ r.contains .nameless = true) (hp : r.contains p = true) :
    r.childPaths p.render = (r.childNames p).map fun name => (Path.child p name).render := by
  have hproper : p.Proper := (ht.addressable p hp).resolve_left fun he => hnone (he ▸ hp)
  rw [childPaths_eq ht (Path.ofString?_render hproper)]
  refine List.map_congr_left fun name hname => ?_
  rcases entry_eq_of_contains ht ((mem_childNames ht).mp hname) with he | ⟨-, -, hnameless⟩
  · rw [he]
  · exact absurd hnameless hnone

/-- With it, the root is a child of the root. -/
theorem slash_mem_childPaths (ht : IsTree r) (h : r.contains .nameless = true) : "/" ∈ r.childPaths "/" := by
  rw [childPaths_eq (p := .root) ht (by decide)]
  exact List.mem_map.mpr ⟨"", (mem_childNames ht).mpr h, rfl⟩

/-- **No node lists itself or one above it**, apart from the root. -/
theorem exists_ancestor_mem_childPaths_iff (ht : IsTree r) {address : String}
    (hp : Path.ofString? address = some p) :
    (∃ n, ancestor n p.render ∈ r.childPaths address) ↔ p = .root ∧ r.contains .nameless = true := by
  have haddressable := Path.ofString?_addressable hp
  rw [childPaths_eq ht hp]
  constructor
  · rintro ⟨n, hn⟩
    obtain ⟨name, hname, hsame⟩ := List.mem_map.mp hn
    have hchild := (mem_childNames ht).mp hname
    rcases entry_eq_of_contains ht hchild with he | ⟨hroot, -, hnameless⟩
    · -- what is above a node is less deep than its children
      obtain ⟨q, hway, hq, hwritten⟩ := exists_mem_way_ancestor haddressable n
      rw [he, hwritten] at hsame
      rw [← Path.render_inj (ht.addressable _ hchild) hq hsame] at hway
      exact absurd hway (Path.child_not_mem_way p name)
    · exact ⟨hroot, hnameless⟩
  · rintro ⟨rfl, h⟩
    exact ⟨0, List.mem_map.mpr ⟨"", (mem_childNames ht).mpr h, rfl⟩⟩

/-! ## The walk -/

/-- `Walked r pending visited`: the walk that has `pending` ahead comes to an end, and has visited `visited`
    then.  At each path it asks for the children first, and goes on with them. -/
inductive Walked (r : Repository) : List String → List String → Prop where
  /-- Nothing is ahead. -/
  | done : Walked r [] []
  /-- The first path is visited, and its children are ahead of the others. -/
  | visit {written : String} {pending visited : List String}
    (h : Walked r (r.childPaths written ++ pending) visited) : Walked r (written :: pending) (written :: visited)

/-- There is one walk. -/
theorem Walked.unique {visited' : List String} (h : Walked r pending visited) (h' : Walked r pending visited') :
    visited = visited' := by
  induction h generalizing visited' with
  | done => cases h'; rfl
  | visit _ ih =>
    cases h' with
    | visit h' => rw [ih h']

/-- **The walk has no end** where the nameless node is stored: the root is ahead over and over again. -/
theorem not_walked_of_nameless (ht : IsTree r) (h : r.contains .nameless = true) :
    ¬ ∃ visited, Walked r ["/"] visited := by
  have hnever : ∀ {pending visited}, Walked r pending visited → "/" ∉ pending := by
    intro pending visited hwalk
    induction hwalk with
    | done => exact List.not_mem_nil
    | visit _ ih =>
      intro hmem
      rcases List.mem_cons.mp hmem with rfl | hmem
      · exact ih (List.mem_append_left _ (slash_mem_childPaths ht h))
      · exact ih (List.mem_append_right _ hmem)
  rintro ⟨visited, hwalk⟩
  exact hnever hwalk (List.mem_singleton.mpr rfl)

/-! ## The tree in preorder -/

/-- `p` and what is stored below it, less than `n` names down, each node before those below it. -/
def below (r : Repository) : Nat → Path → List Path
  | 0, _ => []
  | n + 1, p => p :: (r.childNames p).flatMap fun name => r.below n (.child p name)

theorem mem_below (ht : IsTree r) {n : Nat} (hp : r.contains p = true) :
    q ∈ r.below n p ↔ r.contains q = true ∧ p ∈ q.way ∧ q.depth < p.depth + n := by
  induction n generalizing p with
  | zero =>
    refine ⟨fun h => absurd h List.not_mem_nil, fun ⟨_, hway, hdepth⟩ => ?_⟩
    have hle := Path.depth_le_of_mem_way hway
    omega
  | succ n ih =>
    rw [below, List.mem_cons, List.mem_flatMap]
    constructor
    · rintro (rfl | ⟨name, hname, hq⟩)
      · exact ⟨hp, Path.mem_way_self q, by omega⟩
      · obtain ⟨hstored, hway, hdepth⟩ := (ih ((mem_childNames ht).mp hname)).mp hq
        refine ⟨hstored, Path.mem_way_trans (Path.mem_way_child.mpr (Or.inr (Path.mem_way_self p))) hway, ?_⟩
        rw [Path.depth] at hdepth
        omega
    · rintro ⟨hstored, hway, hdepth⟩
      rcases Path.exists_child_mem_way hway with rfl | ⟨name, hchild⟩
      · exact Or.inl rfl
      · have hc := ht.contains_of_mem_way hstored hchild
        refine Or.inr ⟨name, (mem_childNames ht).mpr hc, (ih hc).mpr ⟨hstored, hchild, ?_⟩⟩
        rw [Path.depth]
        omega

/-- **Each node stands there once.** -/
theorem nodup_below (ht : IsTree r) {n : Nat} (hp : r.contains p = true) : (r.below n p).Nodup := by
  induction n generalizing p with
  | zero => exact List.nodup_nil
  | succ n ih =>
    have hstored : ∀ name ∈ r.childNames p, r.contains (.child p name) = true := fun name =>
      (mem_childNames ht).mp
    refine List.nodup_cons.mpr ⟨fun hmem => ?_, List.nodup_flatMap.mpr ⟨fun name hname => ih (hstored name hname), ?_⟩⟩
    · -- what is below a child is not above it
      obtain ⟨name, hname, hbelow⟩ := List.mem_flatMap.mp hmem
      exact Path.child_not_mem_way p name ((mem_below ht (hstored name hname)).mp hbelow).2.1
    · refine (nodup_childNames ht).pairwise_of_forall_ne fun a ha b hb hne q hqa hqb => hne ?_
      have hway := ((mem_below ht (hstored a ha)).mp hqa).2.1
      have hway' := ((mem_below ht (hstored b hb)).mp hqb).2.1
      exact (Path.child.inj (Path.eq_of_mem_way hway hway' rfl)).2

/-- **The walk goes through what is below a node** before it goes on. -/
theorem walked_below (ht : IsTree r) (hnone : ¬ r.contains .nameless = true) {n : Nat}
    (hp : r.contains p = true) (hdeep : ∀ q, r.contains q = true → p ∈ q.way → q.depth < p.depth + n)
    (hwalk : Walked r pending visited) :
    Walked r (p.render :: pending) ((r.below n p).map Path.render ++ visited) := by
  induction n generalizing p pending visited with
  | zero => exact absurd (hdeep p hp (Path.mem_way_self p)) (by omega)
  | succ n ih =>
    have hall : ∀ names ⊆ r.childNames p,
        Walked r ((names.map fun name => (Path.child p name).render) ++ pending)
          ((names.flatMap fun name => r.below n (.child p name)).map Path.render ++ visited) := by
      intro names hnames
      induction names with
      | nil => exact hwalk
      | cons name names ihNames =>
        have hchild := (mem_childNames ht).mp (hnames List.mem_cons_self)
        have hrest := ihNames fun other hother => hnames (List.mem_cons_of_mem _ hother)
        rw [List.flatMap_cons, List.map_append, List.append_assoc]
        refine ih hchild (fun q hq hway => ?_) hrest
        have hlt := hdeep q hq (Path.mem_way_trans (Path.mem_way_child.mpr (Or.inr (Path.mem_way_self p))) hway)
        rw [Path.depth]
        omega
    refine .visit ?_
    rw [childPaths_render ht hnone hp]
    exact hall _ (List.Subset.refl _)

/-- Finitely many nodes are stored. -/
theorem exists_depth_lt (r : Repository) : ∃ n, ∀ q, r.contains q = true → q.depth < n := by
  obtain ⟨n, hn⟩ := (r.nodes.map fun entry => entry.1.depth).toFinset.exists_le
  refine ⟨n + 1, fun q hq => Nat.lt_succ_of_le (hn _ ?_)⟩
  obtain ⟨node, hnode⟩ := contains_iff.mp hq
  obtain ⟨entry, hentry, -⟩ := Option.map_eq_some_iff.mp hnode
  have hself : entry.1 = q := by
    simpa using List.find?_some hentry
  rw [List.mem_toFinset, ← hself]
  exact List.mem_map_of_mem (List.mem_of_find?_eq_some hentry)

/-! ## Seen from outside -/

theorem isSome_written?_iff (ht : IsTree r) {written : String} :
    (r.written? written).isSome ↔ ∃ q, r.contains q = true ∧ Path.render q = written := by
  constructor
  · intro h
    obtain ⟨node, hnode⟩ := Option.isSome_iff_exists.mp h
    obtain ⟨q, -, hwritten, hq⟩ := written?_eq_some ht hnode
    exact ⟨q, contains_iff.mpr ⟨node, hq⟩, hwritten⟩
  · rintro ⟨q, hq, rfl⟩
    rw [written?_render ht (ht.addressable q hq)]
    exact hq

theorem isSome_written?_empty (ht : IsTree r) : (r.written? "").isSome ↔ r.contains .nameless = true := by
  have hempty : r.written? "" = r.get? .nameless := written?_render ht (p := .nameless) (Or.inl rfl)
  rw [hempty, contains]

/-- **The nameless node** is made by a write to slashes alone, and by no other. -/
theorem contains_nameless_upsert (ht : IsTree r) (address : String) (fields : Fields) :
    (r.upsert address fields).2.contains .nameless = true ↔ r.contains .nameless = true
      ∨ (Path.ofString? address = some .nameless ∧ ∃ outcome, (r.upsert address fields).1 = .ok outcome) := by
  unfold upsert
  cases hp : Path.ofString? address with
  | none => simp
  | some p =>
    dsimp only
    cases fields.values with
    | error e => simp
    | ok values =>
      have hway : .nameless ∈ p.way ↔ p = .nameless := by
        constructor
        · intro h
          by_contra hne
          exact Path.not_proper_nameless (((Path.ofString?_addressable hp).resolve_left hne).of_mem_way h)
        · rintro rfl
          exact Path.mem_way_self _
      rw [contains_put, contains_ensure_iff ht, hway, Option.some.injEq, or_comm]
      simp

/-- **Without the nameless node** the walk from the root visits what is stored, each node once. -/
theorem exists_walked (ht : IsTree r) (hnone : ¬ r.contains .nameless = true) :
    ∃ visited, Walked r ["/"] visited ∧ visited.Nodup ∧ ∀ written, written ∈ visited ↔ (r.written? written).isSome := by
  obtain ⟨n, hdeep⟩ := exists_depth_lt r
  have hmem : ∀ {q}, q ∈ r.below n .root ↔ r.contains q = true := by
    intro q
    rw [mem_below ht ht.root, Path.depth, Nat.zero_add]
    exact ⟨fun h => h.1, fun h => ⟨h, Path.root_mem_way q, hdeep q h⟩⟩
  have hwalk : Walked r ["/"] ((r.below n .root).map Path.render ++ []) :=
    walked_below ht hnone ht.root (fun q hq _ => by rw [Path.depth, Nat.zero_add]; exact hdeep q hq) .done
  rw [List.append_nil] at hwalk
  refine ⟨_, hwalk, ?_, fun written => ?_⟩
  · refine (nodup_below ht ht.root).map_on fun a ha b hb => ?_
    exact Path.render_inj (ht.addressable a (hmem.mp ha)) (ht.addressable b (hmem.mp hb))
  · rw [isSome_written?_iff ht, List.mem_map]
    simp only [hmem]

/-- What somebody who walks through a repository finds, by written paths.  The empty one is the exception
    to everything. -/
structure WalkableButForEmpty (r : Repository) : Prop where
  /-- A stored path is an address, and its own normal form. -/
  address : ∀ written, (r.written? written).isSome →
    Path.normal? written = if written = "" then none else some written
  /-- No node lists itself or one above it; only the root does, if the empty path is stored. -/
  children : ∀ address written, Path.normal? address = some written →
    ((∃ n, ancestor n written ∈ r.childPaths address) ↔ written = "/" ∧ (r.written? "").isSome)
  /-- The walk from the root comes to an end, unless the empty path is stored, -/
  ends : (∃ visited, Walked r ["/"] visited) ↔ r.written? "" = none
  /-- and it has then visited all that is stored, each path once. -/
  visits : ∀ visited, Walked r ["/"] visited →
    visited.Nodup ∧ ∀ written, written ∈ visited ↔ (r.written? written).isSome
  /-- A write brings the empty path exactly if it is taken at an address with this normal form. -/
  empty : ∀ address fields, ((r.upsert address fields).2.written? "").isSome ↔ (r.written? "").isSome
    ∨ (Path.normal? address = some "" ∧ ∃ outcome, (r.upsert address fields).1 = .ok outcome)

theorem Reachable.walkableButForEmpty (hr : Reachable r) : WalkableButForEmpty r := by
  have ht := hr.isTree
  have hempty : r.written? "" = none ↔ ¬ r.contains .nameless = true := by
    rw [← isSome_written?_empty ht, Option.not_isSome_iff_eq_none]
  constructor
  · intro written hstored
    obtain ⟨p, hp, rfl⟩ := (isSome_written?_iff ht).mp hstored
    exact Path.normal?_render (ht.addressable p hp)
  · intro address written hnormal
    obtain ⟨p, hp, rfl⟩ := Path.normal?_eq_some_iff.mp hnormal
    rw [exists_ancestor_mem_childPaths_iff ht hp, Path.render_eq_slash_iff (Path.ofString?_addressable hp),
      isSome_written?_empty ht]
  · rw [hempty]
    constructor
    · exact fun hwalk hnameless => not_walked_of_nameless ht hnameless hwalk
    · intro hnone
      obtain ⟨visited, hwalk, -⟩ := exists_walked ht hnone
      exact ⟨visited, hwalk⟩
  · intro visited hwalk
    have hnone : ¬ r.contains .nameless = true := fun h => not_walked_of_nameless ht h ⟨visited, hwalk⟩
    obtain ⟨visited', hwalk', hvisited⟩ := exists_walked ht hnone
    rw [hwalk.unique hwalk']
    exact hvisited
  · intro address fields
    have hslashes : Path.normal? address = some "" ↔ Path.ofString? address = some .nameless := by
      rw [Path.normal?_eq_some_iff]
      constructor
      · rintro ⟨p, hp, hwritten⟩
        rw [hp, (Path.render_eq_empty_iff (Path.ofString?_addressable hp)).mp hwritten]
      · exact fun hp => ⟨.nameless, hp, rfl⟩
    rw [isSome_written?_empty (hr.upsert address fields).isTree, isSome_written?_empty ht,
      contains_nameless_upsert ht, hslashes]

/-- **Addresses have canonical normal forms, and the tree can be walked, but for slashes alone.**  A single
    slash is the root.  Two or more have the empty text as their normal form, which is no address; and the
    node that is made there turns the walk into a circle. -/
theorem canonical_but_for_slashes (hr : Reachable r) (address : String) :
    ((∃ written, Path.normal? address = some written) ↔ address.toList.head? = some '/'
      ∧ ∀ part ∈ Path.parts address, part ≠ "" ∧ part ≠ "." ∧ part ≠ "..")
    ∧ (∀ written, Path.normal? address = some written →
        Path.IsNormalForm address written
        ∧ ∀ other written', Path.normal? other = some written' →
          Text.dropEndSlashes address = Text.dropEndSlashes other →
          (written = written' ↔ (address = "/" ↔ other = "/")))
    ∧ WalkableButForEmpty r := by
  refine ⟨?_, fun written h => ⟨Path.isNormalForm_of_eq_some h, fun other written' h' hsame =>
    Path.normal?_eq_iff_of_dropEndSlashes_eq h h' hsame⟩, hr.walkableButForEmpty⟩
  rw [← Path.ofString?_isSome_iff]
  constructor
  · rintro ⟨written, h⟩
    obtain ⟨p, hp, -⟩ := Path.normal?_eq_some_iff.mp h
    exact ⟨p, hp⟩
  · rintro ⟨p, hp⟩
    exact ⟨p.render, Path.normal?_eq_some_iff.mpr ⟨p, hp, rfl⟩⟩

/-- Names with slashes behind them: the address has the same normal form without these, and a tree that is
    written at such addresses is walked to its end. -/
theorem canonical_but_for_slashes_behind_names :
    let r := ((({} : Repository).upsert "/a/b//" []).2.upsert "/c/" []).2
    Reachable r ∧ Path.normal? "/a/b//" = some "/a/b" ∧ Path.IsCanonical "/a/b"
      ∧ (∀ written, Path.normal? "/a/b" = some written → "/a/b" = written)
      ∧ r.written? "" = none ∧ (r.written? "/a/b").isSome
      ∧ ∃ visited, Walked r ["/"] visited ∧ visited.Nodup ∧ "/a/b" ∈ visited := by
  intro r
  have hr : Reachable r := .upsert _ _ (.upsert _ _ .new)
  have hnormal : Path.normal? "/a/b//" = some "/a/b" := by decide +kernel
  have hempty : r.written? "" = none := by decide +kernel
  have hstored : (r.written? "/a/b").isSome := by decide +kernel
  obtain ⟨-, hform, hwalkable⟩ := canonical_but_for_slashes hr "/a/b//"
  obtain ⟨hcanonical, hslashes⟩ := hform "/a/b" hnormal
  obtain ⟨visited, hwalk⟩ := hwalkable.ends.mpr hempty
  obtain ⟨hnodup, hvisits⟩ := hwalkable.visits visited hwalk
  refine ⟨hr, hnormal, hcanonical.canonical.mpr (by decide), fun written h => ?_, hempty, hstored,
    visited, hwalk, hnodup, (hvisits "/a/b").mpr hstored⟩
  have hdropped : Text.dropEndSlashes "/a/b//" = Text.dropEndSlashes "/a/b" := by decide +kernel
  exact (hslashes "/a/b" written h hdropped).mpr (by decide)

/-- Two slashes: a path that is neither canonical nor an address, and after a write to it the root is a child
    of the root. -/
theorem slashes_lead_back :
    let r := (({} : Repository).upsert "//" []).2
    Path.normal? "/" = some "/" ∧ Path.normal? "//" = some "" ∧ ¬ Path.IsCanonical "" ∧ Path.normal? "" = none
      ∧ Reachable r ∧ (r.written? "").isSome ∧ r.childPaths "/" = ["/"]
      ∧ ¬ ∃ visited, Walked r ["/"] visited := by
  intro r
  have hr : Reachable r := .upsert _ _ .new
  have hnameless : r.contains .nameless = true := by decide +kernel
  exact ⟨by decide, by decide, Path.not_isCanonical_empty, by decide, hr, by decide +kernel, by decide +kernel,
    not_walked_of_nameless hr.isTree hnameless⟩

end TodoSite.Repository
