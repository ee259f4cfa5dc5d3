/-
  Finding and replacing a text inside another one.

  1. **Apart** (`apart needle xs`) — `needle` begins nowhere in `xs`, whatever comes after `xs`; a
     beginning that is cut off at the end of `xs` counts as well.  This can be computed, and texts that
     are apart stay apart when they are put together (`apart_append`).

  2. **Replacing** goes through what is apart, and puts the insert in the place of the needle that
     comes next (`replaceFrom_append`, `replaceFrom_self`).  A character that the needle does not hold
     cuts the work in two (`replaceFrom_append_cons`).

  3. **Looking for** what stands between two texts (`between?`).

  4. **Counting** passes over what is apart (`occurrences_append`).

  CRUX.  A text without the needle need not be apart from it: it may end with a part of the needle.
  One more character that the needle does not hold rules that out (`apart_concat`).
-/
import TodoSite.Text.Pieces

namespace TodoSite.Text

/-- Whether two texts differ at a place that both have. -/
def differ : List Char → List Char → Bool
  | d :: ds, c :: cs => decide (d ≠ c) || differ ds cs
  | _, _ => false

/-- Whether `needle` begins nowhere in a text, whatever comes after it. -/
def apart (needle : List Char) : List Char → Bool
  | [] => true
  | c :: cs => differ needle (c :: cs) && apart needle cs

variable {needle insert xs ys zs : List Char} {c : Char}

/-! ## Texts that are apart -/

theorem differ_append {ds cs : List Char} (h : differ ds cs = true) (es : List Char) :
    differ ds (cs ++ es) = true := by
  induction ds generalizing cs with
  | nil => exact absurd h Bool.false_ne_true
  | cons d ds ih =>
    cases cs with
    | nil => exact absurd h Bool.false_ne_true
    | cons c cs =>
      rw [differ, Bool.or_eq_true] at h
      rw [List.cons_append, differ, Bool.or_eq_true]
      exact h.imp_right ih

theorem not_prefix_of_differ {ds cs : List Char} (h : differ ds cs = true) : ¬ ds <+: cs := by
  induction ds generalizing cs with
  | nil => exact absurd h Bool.false_ne_true
  | cons d ds ih =>
    cases cs with
    | nil => exact absurd h Bool.false_ne_true
    | cons c cs =>
      rw [differ, Bool.or_eq_true] at h
      intro hprefix
      obtain ⟨he, hrest⟩ := List.cons_prefix_cons.mp hprefix
      rcases h with hne | h
      · exact of_decide_eq_true hne he
      · exact ih h hrest

theorem apart_append (hx : apart needle xs = true) (hy : apart needle ys = true) :
    apart needle (xs ++ ys) = true := by
  induction xs with
  | nil => exact hy
  | cons x xs ih =>
    rw [apart, Bool.and_eq_true] at hx
    rw [List.cons_append, apart, Bool.and_eq_true]
    exact ⟨differ_append hx.1 ys, ih hx.2⟩

/-- A text without the first character of the needle is apart from it. -/
theorem apart_of_not_mem {tail : List Char} (h : c ∉ xs) : apart (c :: tail) xs = true := by
  induction xs with
  | nil => rfl
  | cons x xs ih =>
    have hne : c ≠ x := fun he => h (he ▸ List.mem_cons_self)
    rw [apart, differ, decide_eq_true hne, Bool.true_or, Bool.true_and]
    exact ih fun hmem => h (List.mem_cons_of_mem _ hmem)

/-- Where the needle does not come next, it differs from the text at the latest where the text ends
    with a character that the needle does not hold. -/
theorem differ_concat {ds cs : List Char} (h : ¬ ds <+: cs) (hc : c ∉ ds) :
    differ ds (cs ++ [c]) = true := by
  induction ds generalizing cs with
  | nil => exact absurd List.nil_prefix h
  | cons d ds ih =>
    have hd : d ≠ c := fun he => hc (he ▸ List.mem_cons_self)
    cases cs with
    | nil =>
      rw [List.nil_append, differ, decide_eq_true hd]
      rfl
    | cons x cs =>
      rw [List.cons_append, differ, Bool.or_eq_true]
      by_cases he : d = x
      · refine Or.inr (ih (fun hprefix => h ?_) fun hmem => hc (List.mem_cons_of_mem _ hmem))
        exact List.cons_prefix_cons.mpr ⟨he, hprefix⟩
      · exact Or.inl (decide_eq_true he)

/-- **A text without the needle**, and after it a character that the needle does not hold. -/
theorem apart_concat (h : ¬ needle <:+: xs) (hc : c ∉ needle) : apart needle (xs ++ [c]) = true := by
  induction xs with
  | nil =>
    have hdiffer : differ needle ([] ++ [c]) = true :=
      differ_concat (fun hprefix => h hprefix.isInfix) hc
    rw [List.nil_append] at hdiffer ⊢
    rw [apart, hdiffer]
    rfl
  | cons x xs ih =>
    have hdiffer : differ needle (x :: xs ++ [c]) = true :=
      differ_concat (fun hprefix => h hprefix.isInfix) hc
    rw [List.cons_append] at hdiffer ⊢
    rw [apart, hdiffer, Bool.true_and]
    exact ih fun hinfix => h (List.infix_cons hinfix)

/-- A character that the needle does not hold separates the places where it can stand. -/
theorem infix_append_cons_iff (hc : c ∉ needle) (xs ys : List Char) :
    needle <:+: xs ++ c :: ys ↔ needle <:+: xs ∨ needle <:+: ys := by
  have hnone : ∀ ds : List Char, ds ≠ [] → (∀ d ∈ ds, d ∈ needle) → ¬ ds <+: c :: ys := by
    intro ds hne hmem hprefix
    cases ds with
    | nil => exact hne rfl
    | cons d ds => exact hc ((List.cons_prefix_cons.mp hprefix).1 ▸ hmem d List.mem_cons_self)
  constructor
  · intro h
    rcases List.infix_append_iff.mp h with h | h | ⟨front, back, rfl, hfront, hback⟩
    · exact Or.inl h
    · rcases List.infix_cons_iff.mp h with h | h
      · cases needle with
        | nil => exact Or.inl (List.nil_infix)
        | cons d ds => exact absurd h (hnone _ (List.cons_ne_nil _ _) fun _ hmem => hmem)
      · exact Or.inr h
    · cases back with
      | nil =>
        rw [List.append_nil]
        exact Or.inl hfront.isInfix
      | cons d ds =>
        exact absurd hback (hnone _ (List.cons_ne_nil _ _) fun _ hmem => List.mem_append_right _ hmem)
  · rintro (h | h)
    · exact List.infix_append_of_infix_left h
    · exact List.infix_append_of_infix_right (List.infix_cons h)

/-- Nothing can begin where the first character of the needle does not stand. -/
theorem infix_append_iff_of_not_mem {tail : List Char} (h : c ∉ xs) :
    c :: tail <:+: xs ++ ys ↔ c :: tail <:+: ys := by
  induction xs with
  | nil => exact Iff.rfl
  | cons x xs ih =>
    have hne : c ≠ x := fun he => h (he ▸ List.mem_cons_self)
    have hrest := ih fun hmem => h (List.mem_cons_of_mem _ hmem)
    rw [List.cons_append, List.infix_cons_iff, List.cons_prefix_cons]
    exact ⟨fun hor => hrest.mp (hor.resolve_left fun hand => hne hand.1), fun hy => Or.inr (hrest.mpr hy)⟩

/-! ## Replacing -/

/-- What has been passed of an occurrence is dropped. -/
theorem replaceFrom_drop (needle insert : List Char) (passed : Nat) (cs : List Char) :
    replaceFrom needle insert passed cs = replaceFrom needle insert 0 (cs.drop passed) := by
  induction passed generalizing cs with
  | zero => rfl
  | succ passed ih =>
    cases cs with
    | nil => rfl
    | cons c cs =>
      rw [replaceFrom, List.drop_succ_cons]
      exact ih cs

theorem replaceFrom_cons (h : ¬ needle <+: c :: xs) :
    replaceFrom needle insert 0 (c :: xs) = c :: replaceFrom needle insert 0 xs := by
  rw [replaceFrom, if_neg fun hp => h (List.isPrefixOf_iff_prefix.mp hp)]

/-- **The needle that comes next** gives way to the insert. -/
theorem replaceFrom_self (hne : needle ≠ []) (insert ys : List Char) :
    replaceFrom needle insert 0 (needle ++ ys) = insert ++ replaceFrom needle insert 0 ys := by
  cases needle with
  | nil => exact absurd rfl hne
  | cons d ds =>
    have hprefix : (d :: ds).isPrefixOf (d :: (ds ++ ys)) = true :=
      List.isPrefixOf_iff_prefix.mpr (List.prefix_append (d :: ds) ys)
    rw [List.cons_append, replaceFrom, if_pos hprefix, replaceFrom_drop, List.length_cons,
      Nat.add_sub_cancel, List.drop_left]

/-- **What is apart from the needle** stays, and what comes after it is worked on alone. -/
theorem replaceFrom_append (h : apart needle xs = true) (insert ys : List Char) :
    replaceFrom needle insert 0 (xs ++ ys) = xs ++ replaceFrom needle insert 0 ys := by
  induction xs with
  | nil => rfl
  | cons x xs ih =>
    rw [apart, Bool.and_eq_true] at h
    have hne : ¬ needle <+: x :: (xs ++ ys) := not_prefix_of_differ (differ_append h.1 ys)
    rw [List.cons_append, replaceFrom_cons hne, ih h.2]
    rfl

/-- **The first occurrence**, if there is one, gives way to the insert, and what comes after it is
    worked on alone. -/
theorem replaceFrom_of_infix (hne : needle ≠ []) (h : needle <:+: xs) (insert : List Char) :
    ∃ before after, xs = before ++ (needle ++ after)
      ∧ replaceFrom needle insert 0 xs = before ++ (insert ++ replaceFrom needle insert 0 after) := by
  induction xs with
  | nil => exact absurd (List.infix_nil.mp h) hne
  | cons x xs ih =>
    by_cases hprefix : needle <+: x :: xs
    · obtain ⟨after, hafter⟩ := hprefix
      refine ⟨[], after, hafter.symm, ?_⟩
      rw [← hafter]
      exact replaceFrom_self hne insert after
    · obtain ⟨before, after, hxs, hreplace⟩ := ih ((List.infix_cons_iff.mp h).resolve_left hprefix)
      refine ⟨x :: before, after, congrArg (x :: ·) hxs, ?_⟩
      rw [replaceFrom_cons hprefix, hreplace]
      rfl

theorem replaceFrom_of_not_infix (h : ¬ needle <:+: xs) : replaceFrom needle insert 0 xs = xs := by
  induction xs with
  | nil => rfl
  | cons x xs ih =>
    rw [replaceFrom_cons fun hprefix => h hprefix.isInfix, ih fun hinfix => h (List.infix_cons hinfix)]

theorem replaceFrom_cons_of_not_mem (hne : needle ≠ []) (hc : c ∉ needle) :
    replaceFrom needle insert 0 (c :: ys) = c :: replaceFrom needle insert 0 ys := by
  refine replaceFrom_cons fun hprefix => ?_
  cases needle with
  | nil => exact hne rfl
  | cons d ds => exact hc ((List.cons_prefix_cons.mp hprefix).1 ▸ List.mem_cons_self)

/-- **A character that the needle does not hold** cuts the work in two. -/
theorem replaceFrom_append_cons (hne : needle ≠ []) (hc : c ∉ needle) {passed : Nat}
    (hpassed : passed ≤ xs.length) :
    replaceFrom needle insert passed (xs ++ c :: ys)
      = replaceFrom needle insert passed xs ++ c :: replaceFrom needle insert 0 ys := by
  induction xs generalizing passed with
  | nil =>
    obtain rfl : passed = 0 := Nat.le_zero.mp hpassed
    exact replaceFrom_cons_of_not_mem hne hc
  | cons x xs ih =>
    rw [List.cons_append]
    cases passed with
    | succ passed => exact ih (Nat.le_of_succ_le_succ hpassed)
    | zero =>
      by_cases hprefix : needle <+: x :: xs
      · have hlonger : needle <+: x :: (xs ++ c :: ys) := hprefix.trans (List.prefix_append _ _)
        have hlength : needle.length ≤ xs.length + 1 := hprefix.length_le
        rw [replaceFrom, replaceFrom, if_pos (List.isPrefixOf_iff_prefix.mpr hprefix),
          if_pos (List.isPrefixOf_iff_prefix.mpr hlonger), List.append_assoc,
          ih (by omega)]
      · have hdiffer := differ_append (differ_concat hprefix hc) ys
        rw [List.append_assoc] at hdiffer
        have hlonger : ¬ needle <+: x :: (xs ++ c :: ys) := not_prefix_of_differ hdiffer
        rw [replaceFrom_cons hprefix, replaceFrom_cons hlonger, ih (Nat.zero_le _)]
        rfl

/-! ## Looking for what stands between -/

/-- What stands before and after the first `needle` of a text. -/
def breakAt (needle : List Char) : List Char → Option (List Char × List Char)
  | [] => none
  | c :: cs =>
    if needle.isPrefixOf (c :: cs) then some ([], (c :: cs).drop needle.length)
    else (breakAt needle cs).map fun parts => (c :: parts.1, parts.2)

/-- What stands between the first `opening` of a text and the next `closing`. -/
def between? (opening closing text : String) : Option String :=
  match breakAt opening.toList text.toList with
  | none => none
  | some (_, rest) => (breakAt closing.toList rest).map fun parts => String.ofList parts.1

/-- **The first needle** is found after what is apart from it. -/
theorem breakAt_append (hne : needle ≠ []) (h : apart needle xs = true) (ys : List Char) :
    breakAt needle (xs ++ (needle ++ ys)) = some (xs, ys) := by
  induction xs with
  | nil =>
    cases needle with
    | nil => exact absurd rfl hne
    | cons d ds =>
      have hprefix : (d :: ds).isPrefixOf (d :: (ds ++ ys)) = true :=
        List.isPrefixOf_iff_prefix.mpr (List.prefix_append (d :: ds) ys)
      rw [List.nil_append, List.cons_append, breakAt, if_pos hprefix, ← List.cons_append,
        List.drop_left]
  | cons x xs ih =>
    rw [apart, Bool.and_eq_true] at h
    have hfirst : ¬ needle <+: x :: (xs ++ (needle ++ ys)) :=
      not_prefix_of_differ (differ_append h.1 _)
    rw [List.cons_append, breakAt, if_neg fun hp => hfirst (List.isPrefixOf_iff_prefix.mp hp),
      ih h.2]
    rfl

/-- What is found stands in the text as it was found. -/
theorem eq_append_of_breakAt (h : breakAt needle xs = some (ys, zs)) : xs = ys ++ (needle ++ zs) := by
  induction xs generalizing ys with
  | nil => cases h
  | cons x xs ih =>
    rw [breakAt] at h
    split at h
    · rename_i hprefix
      obtain ⟨rest, hrest⟩ := List.isPrefixOf_iff_prefix.mp hprefix
      obtain ⟨rfl, rfl⟩ := Prod.mk.inj (Option.some.inj h)
      rw [← hrest, List.drop_left, List.nil_append]
    · obtain ⟨parts, hparts, heq⟩ := Option.map_eq_some_iff.mp h
      obtain ⟨rfl, rfl⟩ := Prod.mk.inj heq
      rw [ih hparts, List.cons_append]

/-! ## Counting -/

/-- How many times `needle` begins in a text. -/
def occurrences (needle : List Char) : List Char → Nat
  | [] => 0
  | c :: cs => (if needle.isPrefixOf (c :: cs) then 1 else 0) + occurrences needle cs

/-- **In what is apart** from the needle it does not begin. -/
theorem occurrences_append (h : apart needle xs = true) (ys : List Char) :
    occurrences needle (xs ++ ys) = occurrences needle ys := by
  induction xs with
  | nil => rfl
  | cons x xs ih =>
    rw [apart, Bool.and_eq_true] at h
    have hne : ¬ needle <+: x :: (xs ++ ys) := not_prefix_of_differ (differ_append h.1 ys)
    rw [List.cons_append, occurrences, if_neg fun hp => hne (List.isPrefixOf_iff_prefix.mp hp), ih h.2, Nat.zero_add]

end TodoSite.Text
