/-
  The keys of the new items that a page asks for.

  1. **Different new items have different keys** (`Keyed.nodup`): every number given out so far is
     below the next one of the sequence, and the sequence does not go back, whatever becomes of the
     items on the page.

  2. **A write is on its way once** (`Keyed.distinct`): among the writes on their way and those that
     the server has taken, each of these keys occurs once.  A step moves a write from the one list to
     the other, which permutes the two together.
-/
import Mathlib.Data.List.Perm.Basic
import TodoSite.Proofs.Exchange.World
import TodoSite.Proofs.KeySequence

namespace TodoSite

/-- The key of the new item that a write brings. -/
def PendingWrite.addKey? : PendingWrite → Option String
  | .add item => some item.key
  | .toggle _ => none

/-- The keys of the new items that writes bring. -/
def addKeys (writes : List PendingWrite) : List String := writes.filterMap PendingWrite.addKey?

theorem mem_addKeys {writes : List PendingWrite} {key : String} :
    key ∈ addKeys writes ↔ ∃ item, .add item ∈ writes ∧ item.key = key := by
  rw [addKeys, List.mem_filterMap]
  constructor
  · rintro ⟨write, hwrite, hkey⟩
    cases write with
    | add item => exact ⟨item, hwrite, Option.some.inj hkey⟩
    | toggle item => cases hkey
  · rintro ⟨item, hitem, rfl⟩
    exact ⟨.add item, hitem, rfl⟩

theorem addKeys_append (writes more : List PendingWrite) :
    addKeys (writes ++ more) = addKeys writes ++ addKeys more := List.filterMap_append

theorem addKeys_sublist {writes more : List PendingWrite} (h : writes.Sublist more) :
    (addKeys writes).Sublist (addKeys more) := h.filterMap _

/-- Of two new items with one key among these writes both are the same. -/
theorem eq_of_nodup_addKeys {writes : List PendingWrite} {a b : Item} (hnodup : (addKeys writes).Nodup)
    (ha : .add a ∈ writes) (hb : .add b ∈ writes) (hkey : a.key = b.key) : a = b := by
  induction writes with
  | nil => exact absurd ha List.not_mem_nil
  | cons write writes ih =>
    have hrest : (addKeys writes).Nodup := hnodup.sublist (addKeys_sublist (List.sublist_cons_self _ _))
    have hhead : ∀ c, write = .add c → c.key ∉ addKeys writes := by
      rintro c rfl
      exact (List.nodup_cons.mp hnodup).1
    rcases List.mem_cons.mp ha with ha | ha <;> rcases List.mem_cons.mp hb with hb | hb
    · exact PendingWrite.add.inj (ha.trans hb.symm)
    · exact absurd (mem_addKeys.mpr ⟨b, hb, hkey.symm⟩) (hhead a ha.symm)
    · exact absurd (mem_addKeys.mpr ⟨a, ha, hkey⟩) (hhead b hb.symm)
    · exact ih hrest ha hb

theorem getElem?_eraseIdx_perm {α : Type} {l : List α} {i : Nat} {a : α} (h : l[i]? = some a) :
    (a :: l.eraseIdx i).Perm l := by
  obtain ⟨hi, rfl⟩ := List.getElem?_eq_some_iff.mp h
  exact List.getElem_cons_eraseIdx_perm hi

namespace Exchange

/-- How the writes and the key sequence of a page fit together. -/
structure Keyed (x : Exchange) : Prop where
  /-- Every key given out has a number below the next one. -/
  numbered : ∀ k ∈ addKeys x.history.issued, ∃ n, n < x.client.list.keys.next ∧ k = KeySequence.key n
  /-- No key is given out twice. -/
  nodup : (addKeys x.history.issued).Nodup
  /-- What is on its way, or has been taken, has been asked for. -/
  issued : ∀ write ∈ x.writes ++ x.history.taken, write ∈ x.history.issued
  /-- Each new item is on its way, or has been taken, once. -/
  distinct : (addKeys (x.writes ++ x.history.taken)).Nodup
  /-- What has been taken is known to the page, or is about to be. -/
  told : x.history.taken = x.history.acknowledged ++ x.answers

variable {x x' : Exchange} {e : Event}

/-- A key that is given out next is no key given out before. -/
theorem Keyed.key_nextNumber_not_mem (h : Keyed x) :
    KeySequence.key x.nextNumber ∉ addKeys x.history.issued := by
  intro hmem
  obtain ⟨n, hlt, he⟩ := h.numbered _ hmem
  have hle : x.client.list.keys.next ≤ x.nextNumber := KeySequence.next_le_number _ _
  have := KeySequence.key_inj he
  omega

theorem Keyed.mem_issued_of_writes (h : Keyed x) {write : PendingWrite} (hw : write ∈ x.writes) :
    write ∈ x.history.issued := h.issued write (List.mem_append_left _ hw)

theorem Keyed.mem_issued_of_taken (h : Keyed x) {write : PendingWrite} (hw : write ∈ x.history.taken) :
    write ∈ x.history.issued := h.issued write (List.mem_append_right _ hw)

/-- A new item on its way has not been taken. -/
theorem Keyed.not_mem_taken (h : Keyed x) {item : Item} (hw : .add item ∈ x.writes) :
    item.key ∉ addKeys x.history.taken := by
  have hdistinct := h.distinct
  rw [addKeys_append] at hdistinct
  intro hmem
  exact (List.nodup_append.mp hdistinct).2.2 _ (mem_addKeys.mpr ⟨item, hw, rfl⟩) _ hmem rfl

/-- A write that is asked for joins those on their way. -/
theorem Keyed.issue (h : Keyed x) (write : PendingWrite)
    (hnumbered : ∀ k ∈ addKeys [write], ∃ n, n < x.client.list.keys.next ∧ k = KeySequence.key n)
    (hnew : ∀ k ∈ addKeys [write], k ∉ addKeys x.history.issued) : Keyed (x.issue write) where
  numbered := by
    intro k hk
    rw [show (x.issue write).history.issued = x.history.issued ++ [write] from rfl, addKeys_append] at hk
    exact (List.mem_append.mp hk).elim (h.numbered k) (hnumbered k)
  nodup := by
    rw [show (x.issue write).history.issued = x.history.issued ++ [write] from rfl, addKeys_append]
    refine List.nodup_append.mpr ⟨h.nodup, ?_, fun a ha b hb he => hnew b hb (he ▸ ha)⟩
    cases write with
    | add item => exact List.pairwise_singleton _ _
    | toggle item => exact List.nodup_nil
  issued := by
    intro w hw
    show w ∈ x.history.issued ++ [write]
    rcases List.mem_append.mp hw with hw | hw
    · rcases List.mem_append.mp hw with hw | hw
      · exact List.mem_append_left _ (h.mem_issued_of_writes hw)
      · exact List.mem_append_right _ hw
    · exact List.mem_append_left _ (h.mem_issued_of_taken hw)
  distinct := by
    -- the order does not matter for having each key once
    have hperm : (x.writes ++ [write] ++ x.history.taken).Perm ([write] ++ (x.writes ++ x.history.taken)) := by
      rw [List.append_assoc]
      exact (List.perm_append_comm_assoc _ _ _)
    refine ((hperm.filterMap _).nodup_iff).mpr ?_
    show (addKeys ([write] ++ (x.writes ++ x.history.taken))).Nodup
    rw [addKeys_append]
    refine List.nodup_append.mpr ⟨?_, h.distinct, fun a ha b hb he => hnew a ha ?_⟩
    · cases write with
      | add item => exact List.pairwise_singleton _ _
      | toggle item => exact List.nodup_nil
    · obtain ⟨item, hitem, hkey⟩ := mem_addKeys.mp hb
      exact mem_addKeys.mpr ⟨item, h.issued _ hitem, hkey.trans he.symm⟩
  told := h.told

/-- A write that is no longer on its way. -/
theorem Keyed.erase (h : Keyed x) (i : Nat) :
    (∀ write ∈ x.writes.eraseIdx i ++ x.history.taken, write ∈ x.history.issued)
      ∧ (addKeys (x.writes.eraseIdx i ++ x.history.taken)).Nodup := by
  have hsub : (x.writes.eraseIdx i ++ x.history.taken).Sublist (x.writes ++ x.history.taken) :=
    (List.eraseIdx_sublist _ _).append_right _
  exact ⟨fun w hw => h.issued w (hsub.subset hw), h.distinct.sublist (addKeys_sublist hsub)⟩

/-- **Every move keeps the writes and the key sequence fitting.** -/
theorem Keyed.moves (h : Keyed x) (hmove : Moves x e x') : Keyed x' := by
  cases hmove with
  | idle => exact h
  | add hname =>
    have hle : x.client.list.keys.next ≤ x.nextNumber := KeySequence.next_le_number _ _
    -- first the sequence goes on, then the write is asked for
    have hnext : Keyed (x.mapList fun list => { list with keys := ⟨x.nextNumber + 1⟩ }) := by
      refine ⟨fun k hk => ?_, h.nodup, h.issued, h.distinct, h.told⟩
      obtain ⟨n, hlt, he⟩ := h.numbered k hk
      exact ⟨n, show n < x.nextNumber + 1 by omega, he⟩
    refine hnext.issue _ ?_ ?_
    · intro k hk
      exact ⟨x.nextNumber, Nat.lt_succ_self _, List.mem_singleton.mp hk⟩
    · intro k hk
      rw [List.mem_singleton.mp hk]
      exact h.key_nextNumber_not_mem
  | toggle hitem => exact h.issue _ (fun k hk => absurd hk List.not_mem_nil) fun k hk => absurd hk List.not_mem_nil
  | @take i write upsert server hwrite hpost =>
    -- the write goes over from those on their way to those that have been taken
    have hperm : (x.writes.eraseIdx i ++ (x.history.taken ++ [write])).Perm (x.writes ++ x.history.taken) := by
      refine List.Perm.trans ?_ ((getElem?_eraseIdx_perm hwrite).append_right _)
      rw [← List.append_assoc]
      exact List.perm_append_singleton _ _
    refine ⟨h.numbered, h.nodup, fun w hw => h.issued w (hperm.subset hw), ?_, ?_⟩
    · exact ((hperm.filterMap _).nodup_iff).mpr h.distinct
    · show x.history.taken ++ [write] = x.history.acknowledged ++ (x.answers ++ [write])
      rw [h.told, List.append_assoc]
  | @refuse i => exact ⟨h.numbered, h.nodup, (h.erase i).1, (h.erase i).2, h.told⟩
  | @lose i => exact ⟨h.numbered, h.nodup, (h.erase i).1, (h.erase i).2, h.told⟩
  | @acknowledge write answers hanswers =>
    have hkeys : (x.client.list.acknowledge write).keys = x.client.list.keys :=
      TodoList.keys_acknowledge _ _
    refine ⟨fun k hk => ?_, h.nodup, h.issued, h.distinct, ?_⟩
    · obtain ⟨n, hlt, he⟩ := h.numbered k hk
      exact ⟨n, show n < (x.client.list.acknowledge write).keys.next by rw [hkeys]; exact hlt, he⟩
    · show x.history.taken = (x.history.acknowledged ++ [write]) ++ answers
      rw [h.told, hanswers, List.append_assoc]
      rfl
  | reject => exact ⟨h.numbered, h.nodup, h.issued, h.distinct, h.told⟩
  | fetch => exact ⟨h.numbered, h.nodup, h.issued, h.distinct, h.told⟩
  | answer => exact ⟨h.numbered, h.nodup, h.issued, h.distinct, h.told⟩
  | loseFetch => exact ⟨h.numbered, h.nodup, h.issued, h.distinct, h.told⟩
  | @deliver i result hresult =>
    have hkeys : (x.client.finishFetch result).list.keys = x.client.list.keys :=
      AppState.keys_finishFetch _ _
    refine ⟨fun k hk => ?_, h.nodup, h.issued, h.distinct, h.told⟩
    obtain ⟨n, hlt, he⟩ := h.numbered k hk
    exact ⟨n, show n < (x.client.finishFetch result).list.keys.next by rw [hkeys]; exact hlt, he⟩

end Exchange

end TodoSite
