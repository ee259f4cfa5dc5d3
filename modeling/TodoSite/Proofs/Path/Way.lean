/-
  The way to a node.

  `way p` is the list of the nodes that one passes from `p` up to the root, `p` among them.  There is one
  node of each depth on it (`eq_of_mem_way`), so below two different children of a node there is nothing in
  common; and a node that is on the way to another one is that node, or one of its children is on the
  way, too (`exists_child_mem_way`).
-/
import TodoSite.Proofs.Path.Written

namespace TodoSite.Path

/-- A node, the node above it, and so on up to the root. -/
def way : Path → List Path
  | root => [root]
  | child parent name => child parent name :: parent.way

variable {p q : Path}

theorem mem_way_self (p : Path) : p ∈ p.way := by
  cases p with
  | root => exact List.mem_singleton.mpr rfl
  | child parent name => exact List.mem_cons_self

theorem mem_way_child {name : String} : q ∈ (child p name).way ↔ q = child p name ∨ q ∈ p.way :=
  List.mem_cons

theorem above_mem_way (p : Path) : p.above ∈ p.way := by
  cases p with
  | root => exact mem_way_self _
  | child parent name => exact mem_way_child.mpr (Or.inr (mem_way_self _))

theorem root_mem_way (p : Path) : root ∈ p.way := by
  induction p with
  | root => exact mem_way_self _
  | child parent name ih => exact mem_way_child.mpr (Or.inr ih)

/-- What is on the way to a proper path is proper. -/
theorem Proper.of_mem_way (hp : p.Proper) (h : q ∈ p.way) : q.Proper := by
  induction p with
  | root => rw [List.mem_singleton.mp h]; exact trivial
  | child parent name ih =>
    rcases mem_way_child.mp h with rfl | h
    · exact hp
    · exact ih hp.1 h

theorem depth_le_of_mem_way (h : q ∈ p.way) : q.depth ≤ p.depth := by
  induction p with
  | root => rw [List.mem_singleton.mp h]
  | child parent name ih =>
    rcases mem_way_child.mp h with rfl | h
    · exact Nat.le_refl _
    · exact Nat.le_succ_of_le (ih h)

/-- A node is not above the one that it is a child of. -/
theorem child_not_mem_way (p : Path) (name : String) : child p name ∉ p.way := fun h => by
  have hdepth : p.depth + 1 ≤ p.depth := depth_le_of_mem_way h
  omega

/-- **One node of each depth** is on a way. -/
theorem eq_of_mem_way {a b : Path} (ha : a ∈ p.way) (hb : b ∈ p.way) (hdepth : a.depth = b.depth) :
    a = b := by
  induction p with
  | root => rw [List.mem_singleton.mp ha, List.mem_singleton.mp hb]
  | child parent name ih =>
    -- what is above the node is less deep than the node
    rcases mem_way_child.mp ha with rfl | ha <;> rcases mem_way_child.mp hb with rfl | hb
    · rfl
    · exact absurd (depth_le_of_mem_way hb) (by rw [← hdepth]; exact Nat.not_succ_le_self _)
    · exact absurd (depth_le_of_mem_way ha) (by rw [hdepth]; exact Nat.not_succ_le_self _)
    · exact ih ha hb

theorem mem_way_trans {s : Path} (hq : q ∈ p.way) (hp : p ∈ s.way) : q ∈ s.way := by
  induction s with
  | root =>
    rw [List.mem_singleton.mp hp] at hq
    exact hq
  | child parent name ih =>
    rcases mem_way_child.mp hp with rfl | hp
    · exact hq
    · exact mem_way_child.mpr (Or.inr (ih hp))

/-- **Going down**: the way to another node leads through a child. -/
theorem exists_child_mem_way (h : p ∈ q.way) : p = q ∨ ∃ name, child p name ∈ q.way := by
  induction q with
  | root => exact Or.inl (List.mem_singleton.mp h)
  | child parent name ih =>
    rcases mem_way_child.mp h with rfl | h
    · exact Or.inl rfl
    · refine Or.inr ?_
      rcases ih h with rfl | ⟨n, hn⟩
      · exact ⟨name, mem_way_self _⟩
      · exact ⟨n, mem_way_child.mpr (Or.inr hn)⟩

end TodoSite.Path
