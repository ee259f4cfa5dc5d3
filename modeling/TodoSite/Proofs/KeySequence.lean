/-
  The keys that a sequence gives out.

  1. **Different numbers have different keys** (`key_inj`), and every key may stand in an address
     (`isSegment_key`).

  2. **The search ends at a free number** (`key_number_not_mem`), and passes over taken ones only
     (`taken_of_lt_firstFree`).  If it ended at one that is taken, these and that one would be one more
     than there are taken keys.

  3. **The sequence does not go back** (`next_le_number`), so a key that it has given out is never
     given out again.
-/
import TodoSite.KeySequence
import TodoSite.Proofs.Path

namespace TodoSite.KeySequence

/-! ## The spelling of a key -/

theorem toList_key (n : Nat) : (key n).toList = "item".toList ++ Nat.toDigits 10 n := by
  rw [key, String.toList_append, Nat.toList_repr]

/-- **Different numbers have different keys**: the digits of a number tell it from all others. -/
theorem key_inj {m n : Nat} (h : key m = key n) : m = n := by
  have hlist : (key m).toList = (key n).toList := congrArg String.toList h
  rw [toList_key, toList_key] at hlist
  have hdigits : Nat.toDigits 10 m = Nat.toDigits 10 n := List.append_cancel_left hlist
  calc m = Nat.ofDigitChars 10 (Nat.toDigits 10 m) 0 := Nat.ofDigitChars_ten_toDigits.symm
    _ = Nat.ofDigitChars 10 (Nat.toDigits 10 n) 0 := by rw [hdigits]
    _ = n := Nat.ofDigitChars_ten_toDigits

/-- A key stands between two slashes of an address as it is. -/
theorem isSegment_key (n : Nat) : Path.IsSegment (key n) := by
  have hcons : (key n).toList = 'i' :: ("tem".toList ++ Nat.toDigits 10 n) := toList_key n
  have hne : ∀ word : String, word.toList.head? ≠ some 'i' → key n ≠ word := by
    intro word hword he
    rw [← he, hcons] at hword
    exact hword rfl
  have hname : Path.isName (key n) = true := by
    unfold Path.isName
    rw [decide_eq_true (hne "" (by decide)), decide_eq_true (hne "." (by decide)),
      decide_eq_true (hne ".." (by decide))]
    rfl
  have hslash : '/' ∉ (key n).toList := by
    rw [toList_key]
    intro hmem
    rcases List.mem_append.mp hmem with hmem | hmem
    · exact absurd hmem (by decide)
    · have hdigit := Nat.isDigit_of_mem_toDigits (by omega) (by omega) hmem
      exact absurd hdigit (by decide)
  exact ⟨hname, hslash⟩

/-! ## The search for a free number -/

theorem le_firstFree (taken : List String) (steps n : Nat) : n ≤ firstFree taken steps n := by
  induction steps generalizing n with
  | zero => exact Nat.le_refl n
  | succ steps ih =>
    rw [firstFree]
    split
    · have := ih (n + 1)
      omega
    · exact Nat.le_refl n

theorem firstFree_le (taken : List String) (steps n : Nat) : firstFree taken steps n ≤ n + steps := by
  induction steps generalizing n with
  | zero => exact Nat.le_refl n
  | succ steps ih =>
    rw [firstFree]
    split
    · have := ih (n + 1)
      omega
    · exact Nat.le_add_right n (steps + 1)

/-- The search passes over taken numbers only. -/
theorem taken_of_lt_firstFree {taken : List String} {steps n i : Nat} (hfrom : n ≤ i)
    (hbelow : i < firstFree taken steps n) : key i ∈ taken := by
  induction steps generalizing n with
  | zero => exact absurd hbelow (Nat.not_lt.mpr hfrom)
  | succ steps ih =>
    rw [firstFree] at hbelow
    by_cases hn : key n ∈ taken
    · rw [if_pos hn] at hbelow
      rcases Nat.eq_or_lt_of_le hfrom with rfl | hlt
      · exact hn
      · exact ih hlt hbelow
    · rw [if_neg hn] at hbelow
      exact absurd hbelow (Nat.not_lt.mpr hfrom)

/-- When the search ends at a number that is taken, it has passed over taken numbers only. -/
theorem taken_of_firstFree_taken {taken : List String} {steps n : Nat}
    (h : key (firstFree taken steps n) ∈ taken) : ∀ i, i ≤ steps → key (n + i) ∈ taken := by
  induction steps generalizing n with
  | zero =>
    intro i hi
    have hzero : i = 0 := by omega
    subst hzero
    exact h
  | succ steps ih =>
    rw [firstFree] at h
    by_cases hn : key n ∈ taken
    · rw [if_pos hn] at h
      intro i hi
      rcases Nat.eq_zero_or_pos i with rfl | hpos
      · exact hn
      · have hrest := ih h (i - 1) (by omega)
        rwa [show n + 1 + (i - 1) = n + i by omega] at hrest
    · rw [if_neg hn] at h
      exact absurd h hn

/-- **The search ends at a free number.** -/
theorem key_number_not_mem (s : KeySequence) (taken : List String) : key (s.number taken) ∉ taken := by
  intro h
  have hall := taken_of_firstFree_taken h
  -- the numbers that were passed, one more than there are taken keys
  let passed := (List.range (taken.length + 1)).map fun i => key (max s.next (taken.length + 1) + i)
  have hnodup : passed.Nodup := by
    refine List.Pairwise.map _ (fun i j hne he => hne ?_) List.nodup_range
    have := key_inj he
    omega
  have hsub : passed ⊆ taken := by
    intro k hk
    obtain ⟨i, hi, rfl⟩ := List.mem_map.mp hk
    have := List.mem_range.mp hi
    exact hall i (by omega)
  have hle := hnodup.length_le_of_subset hsub
  rw [List.length_map, List.length_range] at hle
  omega

theorem next_le_number (s : KeySequence) (taken : List String) : s.next ≤ s.number taken := by
  have := le_firstFree taken taken.length (max s.next (taken.length + 1))
  unfold number
  omega

end TodoSite.KeySequence
