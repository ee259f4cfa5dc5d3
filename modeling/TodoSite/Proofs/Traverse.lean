/-
  Elements of a list that are turned one after another, up to the first one that is refused.

  A list is taken when all of its elements are (`mapM_eq_ok`), and refused for the first one that is not
  (`mapM_eq_error_iff`).
-/
namespace TodoSite

variable {α β ε : Type} {f : α → Except ε β} {x : α} {xs : List α}

theorem mapM_cons_of_error {e : ε} (hx : f x = .error e) : (x :: xs).mapM f = .error e := by
  rw [List.mapM_cons, hx]
  rfl

theorem mapM_cons_of_ok {y : β} (hx : f x = .ok y) : (x :: xs).mapM f = (xs.mapM f).map (y :: ·) := by
  rw [List.mapM_cons, hx]
  cases xs.mapM f with
  | error e => rfl
  | ok ys => rfl

theorem mapM_cons_eq_ok {zs : List β} (h : (x :: xs).mapM f = .ok zs) :
    ∃ y ys, f x = .ok y ∧ xs.mapM f = .ok ys ∧ zs = y :: ys := by
  cases hx : f x with
  | error e =>
    rw [mapM_cons_of_error hx] at h
    cases h
  | ok y =>
    rw [mapM_cons_of_ok hx] at h
    cases hxs : xs.mapM f with
    | error e =>
      rw [hxs] at h
      cases h
    | ok ys =>
      rw [hxs] at h
      exact ⟨y, ys, rfl, rfl, (Except.ok.inj h).symm⟩

/-- **What a list becomes that is taken**, if `g` says what an element becomes that is taken. -/
theorem mapM_eq_ok {g : α → β} (hf : ∀ x y, f x = .ok y → y = g x) {ys : List β} (h : xs.mapM f = .ok ys) :
    ys = xs.map g := by
  induction xs generalizing ys with
  | nil => exact (Except.ok.inj h).symm
  | cons x xs ih =>
    obtain ⟨y, zs, hx, hxs, rfl⟩ := mapM_cons_eq_ok h
    rw [hf x y hx, ih hxs, List.map_cons]

/-- **What a list is refused for**: the first of its elements that is refused. -/
theorem mapM_eq_error_iff {e : ε} : xs.mapM f = .error e
    ↔ ∃ before x after, xs = before ++ x :: after ∧ f x = .error e ∧ ∀ y ∈ before, ∃ b, f y = .ok b := by
  induction xs with
  | nil =>
    constructor
    · intro h
      cases h
    · rintro ⟨before, x, after, hsplit, -⟩
      simp at hsplit
  | cons x xs ih =>
    cases hx : f x with
    | error e' =>
      rw [mapM_cons_of_error hx]
      constructor
      · intro h
        cases Except.error.inj h
        exact ⟨[], x, xs, rfl, hx, fun y hy => absurd hy List.not_mem_nil⟩
      · rintro ⟨before, y, after, hsplit, hy, hbefore⟩
        cases before with
        | nil =>
          obtain ⟨rfl, rfl⟩ := List.cons.inj hsplit
          rw [Except.error.inj (hx.symm.trans hy)]
        | cons z before =>
          -- what stands before the first one is taken
          obtain ⟨b, hb⟩ := hbefore z List.mem_cons_self
          rw [← (List.cons.inj hsplit).1, hx] at hb
          cases hb
    | ok b =>
      have hrest : (x :: xs).mapM f = .error e ↔ xs.mapM f = .error e := by
        rw [mapM_cons_of_ok hx]
        cases xs.mapM f with
        | error e' => exact Iff.rfl
        | ok bs => exact iff_of_false (fun h => by cases h) fun h => by cases h
      rw [hrest, ih]
      constructor
      · rintro ⟨before, y, after, rfl, hy, hbefore⟩
        exact ⟨x :: before, y, after, rfl, hy, List.forall_mem_cons.mpr ⟨⟨b, hx⟩, hbefore⟩⟩
      · rintro ⟨before, y, after, hsplit, hy, hbefore⟩
        cases before with
        | nil =>
          rw [← (List.cons.inj hsplit).1, hx] at hy
          cases hy
        | cons z before =>
          exact ⟨before, y, after, (List.cons.inj hsplit).2, hy, fun z hz => hbefore z (List.mem_cons_of_mem _ hz)⟩

end TodoSite
