/-
  When a write is refused.

  A write is refused for its address or for the first of its values that does not fit (`upsert_refused_iff`),
  and the tree is then as it was.

  1. **Hints** (`hint?_eq_some_iff`) — the last one given for a field counts, wherever it stands.

  2. **Values** (`value_eq_error_iff`) — one does not fit where that hint asks for a truth value and the
     value spells none.

  3. **The first one** (`values_eq_error_iff`) — the fields that are hints are passed over, and of the others
     the first one that does not fit is what the refusal names.
-/
import TodoSite.Proofs.Repository.Tree

namespace TodoSite

namespace Fields

variable {fields : Fields} {name hint : String} {field : String × String} {e : RepositoryError}

/-- `value` is the last one that the fields give under `name`. -/
def LastGiven (fields : Fields) (name value : String) : Prop :=
  ∃ before after, fields = before ++ (name, value) :: after ∧ ∀ field ∈ after, field.1 ≠ name

/-- The value of a field does not fit `hint`, which is the type that the fields give for it. -/
structure Unfit (fields : Fields) (field : String × String) (hint : String) : Prop where
  /-- The field is not itself the type of another one. -/
  stored : ¬ hintEnding.toList <:+ field.1.toList
  /-- This is the last type that is given for it. -/
  given : LastGiven fields (field.1 ++ hintEnding) hint
  /-- It asks for a truth value, in letters of any case. -/
  asks : Value.asciiLower hint = "boolean"
  /-- The value, without the white space around it, does not spell the one truth value. -/
  notTrue : Value.asciiLower (Text.trim field.2) ≠ "true"
  /-- Nor does it spell the other one. -/
  notFalse : Value.asciiLower (Text.trim field.2) ≠ "false"

/-- `field` is the first of the fields whose value does not fit, and `hint` is what it does not fit. -/
def FirstUnfit (fields : Fields) (field : String × String) (hint : String) : Prop :=
  ∃ before after, fields = before ++ field :: after ∧ Unfit fields field hint
    ∧ ∀ other ∈ before, ∀ hint, ¬ Unfit fields other hint

/-! ## Hints -/

theorem isHint_eq_false_iff (name : String) : isHint name = false ↔ ¬ hintEnding.toList <:+ name.toList := by
  rw [isHint, ← Bool.not_eq_true, List.isSuffixOf_iff_suffix]

/-- **The hint of a field** is the last one given for it. -/
theorem hint?_eq_some_iff : fields.hint? name = some hint ↔ LastGiven fields (name ++ hintEnding) hint := by
  rw [hint?, Option.map_eq_some_iff]
  constructor
  · rintro ⟨field, hfind, rfl⟩
    obtain ⟨hname, after, before, hsplit, hafter⟩ := List.find?_eq_some_iff_append.mp hfind
    have hname : field.1 = name ++ hintEnding := of_decide_eq_true hname
    refine ⟨before.reverse, after.reverse, ?_, fun other hother => ?_⟩
    · rw [← hname, ← List.reverse_inj, hsplit]
      simp
    · simpa using hafter other (List.mem_reverse.mp hother)
  · rintro ⟨before, after, rfl, hafter⟩
    refine ⟨(name ++ hintEnding, hint), List.find?_eq_some_iff_append.mpr ⟨decide_eq_true rfl, after.reverse,
      before.reverse, by simp, fun other hother => ?_⟩, rfl⟩
    simpa using hafter other (List.mem_reverse.mp hother)

/-! ## Values -/

theorem spelledBool?_eq_none_iff (raw : String) : Value.spelledBool? raw = none
    ↔ Value.asciiLower (Text.trim raw) ≠ "true" ∧ Value.asciiLower (Text.trim raw) ≠ "false" := by
  unfold Value.spelledBool?
  by_cases htrue : Value.asciiLower (Text.trim raw) = "true"
  · simp [htrue]
  · by_cases hfalse : Value.asciiLower (Text.trim raw) = "false"
    · simp [hfalse]
    · simp [htrue, hfalse]

/-- **A value is refused** where it does not fit the hint, which the refusal gives as it is written. -/
theorem value_eq_error_iff (hstored : isHint field.1 = false) : fields.value field = .error e
    ↔ ∃ hint, Unfit fields field hint ∧ e = .invalidValue field.1 hint field.2 := by
  constructor
  · intro h
    unfold value at h
    split at h
    · cases h
    · rename_i hint hhint
      split at h
      · rename_i hasks
        split at h
        · cases h
        · rename_i hspelled
          obtain ⟨htrue, hfalse⟩ := (spelledBool?_eq_none_iff field.2).mp hspelled
          exact ⟨hint, ⟨(isHint_eq_false_iff _).mp hstored, hint?_eq_some_iff.mp hhint, of_decide_eq_true hasks, htrue, hfalse⟩,
            (Except.error.inj h).symm⟩
      · cases h
  · rintro ⟨hint, hunfit, rfl⟩
    have hspelled := (spelledBool?_eq_none_iff field.2).mpr ⟨hunfit.notTrue, hunfit.notFalse⟩
    have hasks : asksForBool hint = true := decide_eq_true hunfit.asks
    rw [value, hint?_eq_some_iff.mpr hunfit.given]
    dsimp only
    rw [if_pos hasks, hspelled]

/-- A value that fits is taken. -/
theorem value_isOk (h : ∀ hint, ¬ Unfit fields field hint) (hstored : isHint field.1 = false) :
    ∃ value, fields.value field = .ok value := by
  cases hvalue : fields.value field with
  | ok value => exact ⟨value, rfl⟩
  | error e =>
    obtain ⟨hint, hunfit, -⟩ := (value_eq_error_iff hstored).mp hvalue
    exact absurd hunfit (h hint)

/-! ## The first one -/

/-- **The fields are refused** for the first one that does not fit. -/
theorem values_eq_error_iff : fields.values = .error e
    ↔ ∃ field hint, FirstUnfit fields field hint ∧ e = .invalidValue field.1 hint field.2 := by
  rw [values, mapM_eq_error_iff]
  constructor
  · rintro ⟨before, field, after, hsplit, hvalue, hbefore⟩
    obtain ⟨earlier, rest, hfields, hearlier, hrest⟩ := List.filter_eq_append_iff.mp hsplit
    obtain ⟨hints, later, hlater, hhints, hstored, -⟩ := List.filter_eq_cons_iff.mp hrest
    have hstored : isHint field.1 = false := by simpa using hstored
    obtain ⟨hint, hunfit, he⟩ := (value_eq_error_iff hstored).mp hvalue
    refine ⟨field, hint, ⟨earlier ++ hints, later, ?_, hunfit, fun other hother hint hother' => ?_⟩, he⟩
    · rw [hfields, hlater, List.append_assoc]
    · -- what stands before it is a hint, or has been taken
      have hnot : isHint other.1 = false := (isHint_eq_false_iff _).mpr hother'.stored
      rcases List.mem_append.mp hother with hother | hother
      · have hmem : other ∈ before := hearlier ▸ List.mem_filter.mpr ⟨hother, by simp [hnot]⟩
        obtain ⟨b, hb⟩ := hbefore other hmem
        rw [(value_eq_error_iff hnot).mpr ⟨hint, hother', rfl⟩] at hb
        cases hb
      · exact hhints other hother (by simp [hnot])
  · rintro ⟨field, hint, ⟨before, after, hfields, hunfit, hbefore⟩, rfl⟩
    have hstored : isHint field.1 = false := (isHint_eq_false_iff _).mpr hunfit.stored
    refine ⟨before.filter fun field => !isHint field.1, field, after.filter fun field => !isHint field.1, ?_,
      (value_eq_error_iff hstored).mpr ⟨hint, hunfit, rfl⟩, fun other hother => ?_⟩
    · rw [hfields, List.filter_append, List.filter_cons_of_pos (by simp [hstored])]
    · obtain ⟨hmem, hnot⟩ := List.mem_filter.mp hother
      exact value_isOk (hbefore other hmem) (by simpa using hnot)

/-- Where there is a field that does not fit, there is a first one. -/
theorem exists_firstUnfit_iff :
    (∃ field hint, FirstUnfit fields field hint) ↔ ∃ field ∈ fields, ∃ hint, Unfit fields field hint := by
  constructor
  · rintro ⟨field, hint, ⟨before, after, hfields, hunfit, -⟩⟩
    refine ⟨field, ?_, hint, hunfit⟩
    rw [hfields]
    exact List.mem_append_right _ List.mem_cons_self
  · rintro ⟨field, hmem, hint, hunfit⟩
    classical
    have hsome : (fields.find? fun field => ∃ hint, Unfit fields field hint).isSome :=
      List.find?_isSome.mpr ⟨field, hmem, decide_eq_true ⟨hint, hunfit⟩⟩
    obtain ⟨first, hfind⟩ := Option.isSome_iff_exists.mp hsome
    obtain ⟨hfirst, before, after, hsplit, hbefore⟩ := List.find?_eq_some_iff_append.mp hfind
    obtain ⟨given, hgiven⟩ := of_decide_eq_true hfirst
    refine ⟨first, given, before, after, hsplit, hgiven, fun other hother hint hother' => ?_⟩
    have hother : ∀ hint, ¬ Unfit fields other hint := by simpa using hbefore other hother
    exact hother hint hother'

end Fields

namespace Repository

/-- **What a write is refused for**: its address, or else the first field that does not fit. -/
theorem upsert_eq_error_iff (r : Repository) (address : String) (fields : Fields) (e : RepositoryError) :
    (r.upsert address fields).1 = .error e
      ↔ (Path.ofString? address = none ∧ e = .invalidPath address)
        ∨ (Path.ofString? address ≠ none
          ∧ ∃ field hint, fields.FirstUnfit field hint ∧ e = .invalidValue field.1 hint field.2) := by
  rw [← Fields.values_eq_error_iff, upsert]
  cases hp : Path.ofString? address with
  | none =>
    constructor
    · intro h
      exact Or.inl ⟨rfl, (Except.error.inj h).symm⟩
    · rintro (⟨-, rfl⟩ | ⟨hne, -⟩)
      · rfl
      · exact absurd rfl hne
  | some p =>
    dsimp only
    cases hvalues : fields.values with
    | error e' => simp
    | ok values => simp

/-- **When a write is refused**, what for, and what becomes of the tree.  It is refused for its address, or
    for the first field whose value does not fit the last hint that is given for it. -/
theorem upsert_refused_iff (r : Repository) (address : String) (fields : Fields) :
    ((∃ e, (r.upsert address fields).1 = .error e)
        ↔ Path.ofString? address = none ∨ ∃ field ∈ fields, ∃ hint, fields.Unfit field hint)
      ∧ (∀ e, (r.upsert address fields).1 = .error e
        ↔ (Path.ofString? address = none ∧ e = .invalidPath address)
          ∨ (Path.ofString? address ≠ none
            ∧ ∃ field hint, fields.FirstUnfit field hint ∧ e = .invalidValue field.1 hint field.2))
      ∧ ((∃ e, (r.upsert address fields).1 = .error e) → (r.upsert address fields).2 = r) := by
  refine ⟨?_, upsert_eq_error_iff r address fields, ?_⟩
  · rw [← Fields.exists_firstUnfit_iff]
    simp only [upsert_eq_error_iff]
    constructor
    · rintro ⟨e, ⟨hnone, -⟩ | ⟨-, field, hint, hfirst, -⟩⟩
      · exact Or.inl hnone
      · exact Or.inr ⟨field, hint, hfirst⟩
    · intro h
      by_cases hnone : Path.ofString? address = none
      · exact ⟨_, Or.inl ⟨hnone, rfl⟩⟩
      · obtain ⟨field, hint, hfirst⟩ := h.resolve_left hnone
        exact ⟨_, Or.inr ⟨hnone, field, hint, hfirst, rfl⟩⟩
  · rintro ⟨e, he⟩
    exact (upsert_eq_error he).1

/-- Hints before, behind and twice, and one that is the type of a hint: the last one counts, and a field
    that is a hint is not turned. -/
example :
    let fields : Fields := [("a@TypeHint", "boolean"), ("a", "no"), ("@TypeHint", "BOOLEAN"), ("a@TypeHint", "text"),
      ("a@TypeHint@TypeHint", "boolean"), ("", " False\n"), ("b", "1"), ("b@TypeHint", "Boolean")]
    ({} : Repository).upsert "/l" fields = (.error (.invalidValue "b" "Boolean" "1"), {})
      ∧ (({} : Repository).upsert "/l" fields.dropLast).1.toOption = some .created := by
  decide +kernel

end Repository

end TodoSite
