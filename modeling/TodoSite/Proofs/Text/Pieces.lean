/-
  Cutting a text and putting it together again.

  `pieces` is the inverse of joining with the separator: a text joined from two texts falls into the
  pieces of the one and those of the other, and a text without the separator is one piece.
-/
import TodoSite.Text.Pieces

namespace TodoSite.Text

variable {α : Type} [DecidableEq α] {sep : α}

/-! ## Pieces -/

theorem pieces_cons_sep (xs : List α) : pieces sep (sep :: xs) = [] :: pieces sep xs := by
  rw [pieces, if_pos rfl]

/-- There is always a first piece, and another character in front belongs to it. -/
theorem pieces_cons_ne {x : α} (xs : List α) (hx : x ≠ sep) :
    ∃ p ps, pieces sep xs = p :: ps ∧ pieces sep (x :: xs) = (x :: p) :: ps := by
  induction xs generalizing x with
  | nil => exact ⟨[], [], rfl, by rw [pieces, if_neg hx]; rfl⟩
  | cons y ys ih =>
    by_cases hy : y = sep
    · subst hy
      refine ⟨[], pieces y ys, pieces_cons_sep ys, ?_⟩
      rw [pieces, if_neg hx, pieces_cons_sep]
    · obtain ⟨p, ps, -, hp⟩ := ih hy
      refine ⟨y :: p, ps, hp, ?_⟩
      rw [pieces, if_neg hx, hp]

/-- **Joining and cutting.** -/
theorem pieces_append (xs ys : List α) :
    pieces sep (xs ++ sep :: ys) = pieces sep xs ++ pieces sep ys := by
  induction xs with
  | nil => exact pieces_cons_sep ys
  | cons x xs ih =>
    by_cases hx : x = sep
    · subst hx
      rw [List.cons_append, pieces_cons_sep, pieces_cons_sep, ih, List.cons_append]
    · obtain ⟨p, ps, h, hcons⟩ := pieces_cons_ne xs hx
      obtain ⟨q, qs, h', hcons'⟩ := pieces_cons_ne (xs ++ sep :: ys) hx
      rw [ih, h, List.cons_append] at h'
      obtain ⟨rfl, rfl⟩ := List.cons.inj h'
      rw [List.cons_append, hcons, hcons', List.cons_append]

theorem pieces_eq_singleton {xs : List α} (h : sep ∉ xs) : pieces sep xs = [xs] := by
  induction xs with
  | nil => rfl
  | cons x xs ih =>
    have hx : x ≠ sep := fun he => h (he ▸ List.mem_cons_self)
    rw [pieces, if_neg hx, ih fun hm => h (List.mem_cons_of_mem x hm)]

theorem not_mem_of_mem_pieces {xs p : List α} (hp : p ∈ pieces sep xs) : sep ∉ p := by
  induction xs generalizing p with
  | nil =>
    rw [List.mem_singleton.mp hp]
    exact List.not_mem_nil
  | cons x xs ih =>
    by_cases hx : x = sep
    · subst hx
      rw [pieces_cons_sep] at hp
      rcases List.mem_cons.mp hp with rfl | hp
      · exact List.not_mem_nil
      · exact ih hp
    · obtain ⟨q, qs, h, hcons⟩ := pieces_cons_ne xs hx
      rw [hcons] at hp
      rcases List.mem_cons.mp hp with rfl | hp
      · intro hm
        rcases List.mem_cons.mp hm with he | hm
        · exact hx he.symm
        · exact ih (h ▸ List.mem_cons_self) hm
      · exact ih (h ▸ List.mem_cons_of_mem q hp)

/-! ## The first separator -/

theorem cutAt_append {xs : List α} (ys : List α) (h : sep ∉ xs) :
    cutAt sep (xs ++ sep :: ys) = some (xs, ys) := by
  induction xs with
  | nil => rw [List.nil_append, cutAt, if_pos rfl]
  | cons x xs ih =>
    have hx : x ≠ sep := fun he => h (he ▸ List.mem_cons_self)
    rw [List.cons_append, cutAt, if_neg hx, ih fun hm => h (List.mem_cons_of_mem x hm)]
    rfl

theorem takeWhile_ne_append {xs : List α} (ys : List α) (h : sep ∉ xs) :
    (xs ++ sep :: ys).takeWhile (· ≠ sep) = xs := by
  have hstay : ∀ x ∈ xs, decide (x ≠ sep) = true := fun x hx => decide_eq_true fun he => h (he ▸ hx)
  rw [List.takeWhile_append_of_pos hstay]
  simp

theorem dropWhile_ne_append {xs : List α} (ys : List α) (h : sep ∉ xs) :
    (xs ++ sep :: ys).dropWhile (· ≠ sep) = sep :: ys := by
  have hstay : ∀ x ∈ xs, decide (x ≠ sep) = true := fun x hx => decide_eq_true fun he => h (he ▸ hx)
  rw [List.dropWhile_append_of_pos hstay]
  simp

/-! ## Endings -/

theorem dropEnding?_eq_none_iff {ending text : String} :
    dropEnding? ending text = none ↔ ¬ ending.toList <:+ text.toList := by
  rw [dropEnding?, dropEnd?, Option.map_eq_none_iff, ← List.isSuffixOf_iff_suffix]
  split
  · rename_i hsuffix
    exact iff_of_false (Option.some_ne_none _) fun h => h hsuffix
  · rename_i hsuffix
    exact iff_of_true rfl hsuffix

/-- An ending that has been put behind a text is taken off again. -/
theorem dropEnding?_append (ending text : String) : dropEnding? ending (text ++ ending) = some text := by
  have hsuffix : ending.toList.isSuffixOf (text.toList ++ ending.toList) = true :=
    List.isSuffixOf_iff_suffix.mpr (List.suffix_append _ _)
  rw [dropEnding?, dropEnd?, String.toList_append, if_pos hsuffix, List.length_append]
  simp

end TodoSite.Text
