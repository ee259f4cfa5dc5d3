/-
  Looking up what has been inserted, and inserting it again.

  1. **Looking up** (`get?_insert`, `get?_insertAll`) — the look-up takes the first entry of a name, and
     `insert` puts the new entry before any other of that name; of several pairs with one name the last stays.

  2. **Inserting again** (`insertAll_insertAll`) — an entry replaces one of the same name
     (`insert_insert_self`), and the order of entries with different names does not matter (`insert_comm`).
     So pairs that have been inserted change nothing when they are inserted again.

  All of this holds for every list of pairs, in order or not.
-/
import Mathlib.Data.List.Induction
import TodoSite.NameMap

namespace TodoSite.NameMap

variable {β : Type}

theorem get?_insert (m : NameMap β) (name : String) (b : β) (q : String) :
    (insert name b m).get? q = if q = name then some b else m.get? q := by
  induction m with
  | nil =>
    simp only [insert, get?]
    by_cases h : q = name
    · rw [if_pos h, if_pos h.symm]
    · rw [if_neg h, if_neg fun he => h he.symm]
  | cons entry m ih =>
    obtain ⟨n, c⟩ := entry
    rw [insert]
    by_cases hn : n = name
    · subst hn
      rw [if_pos rfl]
      simp only [get?]
      by_cases h : q = n
      · rw [if_pos h, if_pos h.symm]
      · rw [if_neg h, if_neg fun he => h he.symm, if_neg fun he => h he.symm]
    · rw [if_neg hn]
      by_cases hlt : name < n
      · rw [if_pos hlt]
        simp only [get?]
        by_cases h : q = name
        · rw [if_pos h, if_pos h.symm]
        · rw [if_neg h, if_neg fun he => h he.symm]
      · rw [if_neg hlt]
        simp only [get?, ih]
        by_cases hq : n = q
        · rw [if_pos hq, if_pos hq, if_neg fun he => hn (hq.trans he)]
        · rw [if_neg hq, if_neg hq]

/-- The last of the pairs with this name. -/
def last? (name : String) (ps : List (String × β)) : Option β :=
  (ps.reverse.find? fun p => p.1 = name).map (·.2)

theorem last?_concat (name : String) (ps : List (String × β)) (p : String × β) :
    last? name (ps ++ [p]) = if name = p.1 then some p.2 else last? name ps := by
  rw [last?, List.reverse_concat, List.find?_cons]
  by_cases h : name = p.1
  · rw [if_pos h, decide_eq_true h.symm]
    rfl
  · rw [if_neg h, decide_eq_false fun he => h he.symm]
    rfl

theorem insertAll_concat (m : NameMap β) (ps : List (String × β)) (p : String × β) :
    m.insertAll (ps ++ [p]) = (m.insertAll ps).insert p.1 p.2 := List.foldl_append

/-- **Of the pairs with one name** the last stays. -/
theorem get?_insertAll (m : NameMap β) (ps : List (String × β)) (name : String) :
    (m.insertAll ps).get? name = (last? name ps).or (m.get? name) := by
  induction ps using List.reverseRecOn with
  | nil => rfl
  | append_singleton ps p ih =>
    rw [insertAll_concat, get?_insert, last?_concat, ih]
    split <;> rfl

/-! ## Inserting again -/

variable {m : NameMap β} {n k : String} {b c d : β}

theorem insert_cons_self : insert n b ((n, c) :: m) = (n, b) :: m := if_pos rfl

theorem insert_cons_of_lt (h : n < k) : insert n b ((k, c) :: m) = (n, b) :: (k, c) :: m := by
  have hne : k ≠ n := fun he => String.lt_irrefl k (he ▸ h)
  rw [insert, if_neg hne, if_pos h]

theorem insert_cons_of_gt (h : k < n) : insert n b ((k, c) :: m) = (k, c) :: insert n b m := by
  have hne : k ≠ n := fun he => String.lt_irrefl k (he ▸ h)
  rw [insert, if_neg hne, if_neg (String.lt_asymm h)]

/-- An entry replaces one of the same name. -/
theorem insert_insert_self : insert n b (insert n c m) = insert n b m := by
  induction m with
  | nil => exact insert_cons_self
  | cons entry m ih =>
    obtain ⟨k, d⟩ := entry
    rcases Std.lt_trichotomy n k with hlt | rfl | hgt
    · rw [insert_cons_of_lt hlt, insert_cons_self, insert_cons_of_lt hlt]
    · rw [insert_cons_self, insert_cons_self, insert_cons_self]
    · rw [insert_cons_of_gt hgt, insert_cons_of_gt hgt, insert_cons_of_gt hgt, ih]

theorem insert_comm_of_lt (h : n < k) : insert n b (insert k c m) = insert k c (insert n b m) := by
  induction m with
  | nil =>
    show insert n b [(k, c)] = insert k c [(n, b)]
    rw [insert_cons_of_lt h, insert_cons_of_gt h]
    rfl
  | cons entry m ih =>
    obtain ⟨l, d⟩ := entry
    -- the entry stands before the smaller name, or behind it, where that one is put before it
    rcases Std.lt_trichotomy n l with hlt | rfl | hgt
    · rw [insert_cons_of_lt hlt, insert_cons_of_gt h]
      rcases Std.lt_trichotomy k l with hlt' | rfl | hgt'
      · rw [insert_cons_of_lt hlt', insert_cons_of_lt h]
      · rw [insert_cons_self, insert_cons_of_lt h]
      · rw [insert_cons_of_gt hgt', insert_cons_of_lt hlt]
    · rw [insert_cons_of_gt h, insert_cons_self, insert_cons_self, insert_cons_of_gt h]
    · have hgt' := String.lt_trans hgt h
      rw [insert_cons_of_gt hgt', insert_cons_of_gt hgt, insert_cons_of_gt hgt, insert_cons_of_gt hgt', ih]

/-- **The order of entries** with different names does not matter. -/
theorem insert_comm (h : n ≠ k) : insert n b (insert k c m) = insert k c (insert n b m) := by
  rcases Std.lt_trichotomy n k with hlt | heq | hgt
  · exact insert_comm_of_lt hlt
  · exact absurd heq h
  · exact (insert_comm_of_lt hgt).symm

/-- An entry that is inserted in the end need not have been there in the beginning. -/
theorem insert_insertAll_insert (m : NameMap β) (ps : List (String × β)) :
    insert n b ((insert n c m).insertAll ps) = insert n b (m.insertAll ps) := by
  induction ps generalizing m c with
  | nil => exact insert_insert_self
  | cons p ps ih =>
    show insert n b (insertAll (insert p.1 p.2 (insert n c m)) ps) = insert n b (insertAll (insert p.1 p.2 m) ps)
    by_cases h : p.1 = n
    · rw [h, insert_insert_self]
    · rw [insert_comm h, ih]

/-- **What has been inserted** changes nothing when it is inserted again. -/
theorem insertAll_insertAll (m : NameMap β) (ps : List (String × β)) :
    (m.insertAll ps).insertAll ps = m.insertAll ps := by
  induction ps using List.reverseRecOn with
  | nil => rfl
  | append_singleton ps p ih => rw [insertAll_concat, insertAll_concat, insert_insertAll_insert, ih]

end TodoSite.NameMap
