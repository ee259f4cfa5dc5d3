/-
  Writes in any order.

  Writes reach the repository in whatever order they come in.  If no two that are taken go to the same path,
  the order shows in two things only: in which of them made a node that another one finds, and in the order
  in which children are listed (`upsertAll_perm`).

  1. **What a write comes to** (`Write.effect`) does not depend on the tree: it is refused, or it sets
     properties at a path.

  2. **Two trees are alike** if they store the same nodes with the same properties.  A write keeps them so
     (`Alike.put`), and two writes to different paths come to the same (`propertiesAt_put_comm`); from
     this the rest is an induction over the rearrangement (`alike_putAll`).

  CRUX.  One of two writes may go to a node that the other makes on its way.  Made on the way, a node has
  the properties of a new one, and these are what it starts with when it is written first.
-/
import Mathlib.Data.List.Perm.Basic
import TodoSite.Proofs.Repository.Effect

namespace TodoSite.Repository

/-- A write that is asked for. -/
structure Write where
  /-- Where it goes. -/
  address : String
  /-- The fields of the form. -/
  fields : Fields
  deriving DecidableEq, Repr

/-- Writes one after another: each with what is answered to it, and the tree in the end. -/
def upsertAll (r : Repository) : List Write → List (Write × Except RepositoryError Upsert) × Repository
  | [] => ([], r)
  | write :: writes =>
    let answer := r.upsert write.address write.fields
    let rest := answer.2.upsertAll writes
    ((write, answer.1) :: rest.1, rest.2)

/-- Why something has been refused, if it has. -/
def refusal? {α : Type} : Except RepositoryError α → Option RepositoryError
  | .ok _ => none
  | .error e => some e

/-- The paths of the writes that have been taken. -/
def takenPaths (answers : List (Write × Except RepositoryError Upsert)) : List Path :=
  answers.filterMap fun answer =>
    match answer.2 with
    | .ok _ => Path.ofString? answer.1.address
    | .error _ => none

/-- Two trees that differ at most in the order in which children are listed. -/
structure SameTree (r r' : Repository) : Prop where
  /-- The same nodes are stored. -/
  stored : ∀ p, r.contains p = r'.contains p
  /-- They have the same properties. -/
  properties : ∀ p, r.propertiesAt p = r'.propertiesAt p
  /-- They list the same children, in whatever order. -/
  children : ∀ p, (r.childNames p).Perm (r'.childNames p)

variable {r r' : Repository} {p q : Path} {writes writes' : List Write}

/-! ## What a write comes to -/

/-- A path and the properties that are set there. -/
abbrev Setting := Path × List (String × Value)

/-- What a write sets, or why it is refused. -/
def Write.effect (write : Write) : Except RepositoryError Setting :=
  match Path.ofString? write.address with
  | none => .error (.invalidPath write.address)
  | some p => write.fields.values.map fun values => (p, values)

/-- What those of the writes set that are taken. -/
def settings (writes : List Write) : List Setting :=
  writes.filterMap fun write => write.effect.toOption

/-- The tree after properties have been set at one path after another. -/
def putAll (r : Repository) (settings : List Setting) : Repository :=
  settings.foldl (fun r setting => r.put setting.1 setting.2) r

theorem upsert_eq_effect (r : Repository) (write : Write) : r.upsert write.address write.fields
    = match write.effect with
      | .error e => (.error e, r)
      | .ok setting =>
        (.ok (if r.contains setting.1 then .updated else .created), r.put setting.1 setting.2) := by
  rw [upsert, Write.effect]
  cases Path.ofString? write.address with
  | none => rfl
  | some p =>
    cases write.fields.values with
    | error e => rfl
    | ok values => rfl

/-- What is set is set at the path of the address. -/
theorem path_of_effect {write : Write} {setting : Setting} (h : write.effect = .ok setting) :
    Path.ofString? write.address = some setting.1 := by
  unfold Write.effect at h
  split at h
  · cases h
  · rename_i p hp
    rw [hp]
    cases hvalues : write.fields.values with
    | error e =>
      rw [hvalues] at h
      cases h
    | ok values =>
      rw [hvalues] at h
      cases h
      rfl

/-- Which writes are refused, and why, has nothing to do with the tree. -/
theorem refusals_upsertAll (r : Repository) (writes : List Write) :
    (r.upsertAll writes).1.map (fun answer => (answer.1, refusal? answer.2))
      = writes.map fun write => (write, refusal? write.effect) := by
  induction writes generalizing r with
  | nil => rfl
  | cons write writes ih =>
    have hhead : refusal? (r.upsert write.address write.fields).1 = refusal? write.effect := by
      cases heffect : write.effect with
      | error e => rw [upsert_eq_effect, heffect]; rfl
      | ok setting => rw [upsert_eq_effect, heffect]; rfl
    rw [upsertAll, List.map_cons, List.map_cons, ih, hhead]

theorem takenPaths_upsertAll (r : Repository) (writes : List Write) :
    takenPaths (r.upsertAll writes).1 = (settings writes).map (·.1) := by
  induction writes generalizing r with
  | nil => rfl
  | cons write writes ih =>
    rw [upsertAll, upsert_eq_effect]
    cases heffect : write.effect with
    | error e => simpa [takenPaths, settings, heffect, Except.toOption] using ih r
    | ok setting =>
      have hp := path_of_effect heffect
      simpa [takenPaths, settings, heffect, Except.toOption, hp] using ih (r.put setting.1 setting.2)

/-- The tree is that after what has been set by the writes that are taken. -/
theorem tree_upsertAll (r : Repository) (writes : List Write) :
    (r.upsertAll writes).2 = r.putAll (settings writes) := by
  induction writes generalizing r with
  | nil => rfl
  | cons write writes ih =>
    rw [upsertAll, upsert_eq_effect]
    cases heffect : write.effect with
    | error e => simpa [settings, putAll, heffect, Except.toOption] using ih r
    | ok setting => simpa [settings, putAll, heffect, Except.toOption] using ih (r.put setting.1 setting.2)

theorem addressable_of_mem_settings {setting : Setting} (h : setting ∈ settings writes) :
    setting.1.Addressable := by
  obtain ⟨write, -, heffect⟩ := List.mem_filterMap.mp h
  cases hwrite : write.effect with
  | error e =>
    rw [hwrite] at heffect
    cases heffect
  | ok taken =>
    rw [hwrite] at heffect
    cases heffect
    exact Path.ofString?_addressable (path_of_effect hwrite)

/-! ## Trees that are alike -/

/-- Two trees that store the same nodes with the same properties. -/
structure Alike (r r' : Repository) : Prop where
  /-- The first one is a tree. -/
  left : IsTree r
  /-- So is the second one. -/
  right : IsTree r'
  /-- At each path there are the same properties, or no node. -/
  properties : ∀ p, r.propertiesAt p = r'.propertiesAt p

namespace Alike

theorem refl (ht : IsTree r) : Alike r r := ⟨ht, ht, fun _ => rfl⟩

theorem trans {r'' : Repository} (h : Alike r r') (h' : Alike r' r'') : Alike r r'' :=
  ⟨h.left, h'.right, fun p => (h.properties p).trans (h'.properties p)⟩

/-- What is listed is what is stored, so trees that are alike list the same children. -/
theorem sameTree (h : Alike r r') : SameTree r r' := by
  have hstored : ∀ p, r.contains p = r'.contains p := fun p => by
    rw [← isSome_propertiesAt, ← isSome_propertiesAt, h.properties p]
  refine ⟨hstored, h.properties, fun p => ?_⟩
  refine (List.perm_ext_iff_of_nodup (nodup_childNames h.left) (nodup_childNames h.right)).mpr fun name => ?_
  rw [mem_childNames h.left, mem_childNames h.right, hstored]

theorem put (h : Alike r r') (hp : p.Addressable) (values : List (String × Value)) :
    Alike (r.put p values) (r'.put p values) := by
  refine ⟨h.left.put hp values, h.right.put hp values, fun q => ?_⟩
  rw [propertiesAt_put h.left, propertiesAt_put h.right, h.properties p, h.properties q]

theorem putAll {settings : List Setting} (h : Alike r r')
    (hadd : ∀ setting ∈ settings, setting.1.Addressable) :
    Alike (r.putAll settings) (r'.putAll settings) := by
  induction settings generalizing r r' with
  | nil => exact h
  | cons setting settings ih =>
    refine ih (h.put (hadd setting List.mem_cons_self) setting.2) fun other hother => ?_
    exact hadd other (List.mem_cons_of_mem _ hother)

end Alike

/-! ## Writes to different paths -/

/-- A node that is about to be written starts with what it has, or with what a new node has. -/
theorem getD_propertiesAt_put (ht : IsTree r) (hne : q ≠ p) (values : List (String × Value)) :
    ((r.put p values).propertiesAt q).getD Node.unstructured.properties
      = (r.propertiesAt q).getD Node.unstructured.properties := by
  rw [propertiesAt_put ht, if_neg hne]
  split
  · rfl
  · rfl

/-- **Two writes to different paths** come to the same in either order. -/
theorem propertiesAt_put_comm (ht : IsTree r) (hp : p.Addressable) (hq : q.Addressable) (hne : p ≠ q)
    (values values' : List (String × Value)) (s : Path) :
    ((r.put p values).put q values').propertiesAt s = ((r.put q values').put p values).propertiesAt s := by
  rw [propertiesAt_put (ht.put hp values), propertiesAt_put (ht.put hq values'),
    getD_propertiesAt_put ht hne.symm, getD_propertiesAt_put ht hne]
  by_cases hsp : s = p
  · subst hsp
    rw [if_neg hne, if_pos rfl, propertiesAt_put ht, if_pos rfl]
    exact ite_self _
  by_cases hsq : s = q
  · subst hsq
    rw [if_pos rfl, if_neg hsp, propertiesAt_put ht, if_pos rfl]
    exact (ite_self _).symm
  · -- a node that neither write goes to may be on the way of both
    rw [if_neg hsq, if_neg hsp, getD_propertiesAt_put ht hsp, getD_propertiesAt_put ht hsq,
      propertiesAt_put ht, propertiesAt_put ht, if_neg hsp, if_neg hsq]
    by_cases hwp : s ∈ p.way <;> by_cases hwq : s ∈ q.way <;> simp only [hwp, hwq, if_true, if_false]

/-- What is set at different paths may be set in any order. -/
theorem alike_putAll {settings settings' : List Setting} (hperm : settings.Perm settings') (ht : IsTree r)
    (hadd : ∀ setting ∈ settings, setting.1.Addressable) (hnodup : (settings.map (·.1)).Nodup) :
    Alike (r.putAll settings) (r.putAll settings') := by
  induction hperm generalizing r with
  | nil => exact .refl ht
  | cons setting _ ih =>
    refine ih (ht.put (hadd setting List.mem_cons_self) setting.2) (fun other hother => ?_)
      (List.nodup_cons.mp hnodup).2
    exact hadd other (List.mem_cons_of_mem _ hother)
  | swap second first rest =>
    have hne : first.1 ≠ second.1 := fun he =>
      (List.nodup_cons.mp hnodup).1 (List.mem_cons.mpr (Or.inl he))
    have hfirst : first.1.Addressable := hadd first List.mem_cons_self
    have hsecond : second.1.Addressable := hadd second (List.mem_cons_of_mem _ List.mem_cons_self)
    have hswap : Alike ((r.put first.1 first.2).put second.1 second.2)
        ((r.put second.1 second.2).put first.1 first.2) :=
      ⟨(ht.put hfirst _).put hsecond _, (ht.put hsecond _).put hfirst _,
        propertiesAt_put_comm ht hfirst hsecond hne _ _⟩
    exact hswap.putAll fun other hother => hadd other (List.mem_cons_of_mem _ (List.mem_cons_of_mem _ hother))
  | trans hperm _ ih ih' =>
    refine (ih ht hadd hnodup).trans (ih' ht ?_ ?_)
    · exact fun setting hsetting => hadd setting (hperm.mem_iff.mpr hsetting)
    · exact ((hperm.map _).nodup_iff).mp hnodup

/-- **Writes in any order.**  No two of the writes that are taken go to the same path.  In another order the
    same writes are taken and refused, for the same reasons, and they lead to the same tree but for the
    order in which it lists children. -/
theorem upsertAll_perm (hr : Reachable r) (hperm : writes.Perm writes')
    (hpaths : (takenPaths (r.upsertAll writes).1).Nodup) :
    ((r.upsertAll writes).1.map fun answer => (answer.1, refusal? answer.2)).Perm
        ((r.upsertAll writes').1.map fun answer => (answer.1, refusal? answer.2))
      ∧ SameTree (r.upsertAll writes).2 (r.upsertAll writes').2 := by
  constructor
  · rw [refusals_upsertAll, refusals_upsertAll]
    exact hperm.map _
  · rw [tree_upsertAll, tree_upsertAll]
    rw [takenPaths_upsertAll] at hpaths
    exact (alike_putAll (hperm.filterMap _) hr.isTree (fun _ => addressable_of_mem_settings) hpaths).sameTree

/-- A node, the one above it, a node beside them, and two writes that are refused.  In the other order the
    node above is made on the way to the first one. -/
theorem upsertAll_perm_above :
    let r := (({} : Repository).upsert "/b" []).2
    let writes : List Write :=
      [⟨"/a", [("jcr:primaryType", "list")]⟩, ⟨"/a//c", []⟩, ⟨"/a/c/", [("n", "2")]⟩,
        ⟨"/a", [("done", "maybe"), ("done@TypeHint", "boolean")]⟩, ⟨"/b/d", []⟩, ⟨"/c", []⟩]
    Reachable r ∧ writes.Perm writes.reverse ∧ (takenPaths (r.upsertAll writes).1).Nodup
      ∧ (r.upsertAll writes).1.map (fun answer => answer.2.toOption)
        = [some .created, none, some .created, none, some .created, some .created]
      ∧ (r.upsertAll writes.reverse).1.map (fun answer => answer.2.toOption)
        = [some .created, some .created, none, some .created, none, some .updated]
      ∧ (r.upsertAll writes).2.childNames .root = ["b", "a", "c"]
      ∧ (r.upsertAll writes.reverse).2.childNames .root = ["b", "c", "a"]
      ∧ SameTree (r.upsertAll writes).2 (r.upsertAll writes.reverse).2 := by
  intro r writes
  have hr : Reachable r := .upsert _ _ .new
  have hperm : writes.Perm writes.reverse := (List.reverse_perm writes).symm
  have hpaths : (takenPaths (r.upsertAll writes).1).Nodup := by decide +kernel
  exact ⟨hr, hperm, hpaths, by decide +kernel, by decide +kernel, by decide +kernel, by decide +kernel,
    (upsertAll_perm hr hperm hpaths).2⟩

end TodoSite.Repository
