/-
  Dropping characters at the end of a text.

  What is left is a beginning of the text; nothing is dropped when the last character is to stay.
-/
import Mathlib.Data.List.TakeWhile
import TodoSite.Text.Blank

namespace TodoSite.Text

variable {p : Char → Bool}

theorem dropEndWhile_append_neg {c : Char} (cs : List Char) (h : p c = false) :
    dropEndWhile p (cs ++ [c]) = cs ++ [c] := by
  have hc : ¬ p c = true := by simp [h]
  rw [dropEndWhile, List.reverse_append, List.reverse_singleton, List.singleton_append,
    List.dropWhile_cons_of_neg hc, ← List.singleton_append, List.reverse_append, List.reverse_reverse]
  rfl

theorem dropEndWhile_prefix (cs : List Char) : dropEndWhile p cs <+: cs := by
  rw [dropEndWhile, ← List.reverse_suffix, List.reverse_reverse]
  exact List.dropWhile_suffix p

/-- What is to be dropped is not left at the end. -/
theorem dropEndWhile_ne_concat {c : Char} (h : p c = true) (before cs : List Char) :
    dropEndWhile p cs ≠ before ++ [c] := by
  intro he
  have hreverse : cs.reverse.dropWhile p = c :: before.reverse := by
    rw [dropEndWhile] at he
    simpa using congrArg List.reverse he
  have hhead := List.head?_dropWhile_not p cs.reverse
  rw [hreverse] at hhead
  simp [h] at hhead

/-- Nothing is left of a text that is to be dropped as a whole. -/
theorem dropEndWhile_eq_nil_iff {cs : List Char} : dropEndWhile p cs = [] ↔ ∀ c ∈ cs, p c = true := by
  rw [dropEndWhile, List.reverse_eq_nil_iff, List.dropWhile_eq_nil_iff]
  simp

end TodoSite.Text
