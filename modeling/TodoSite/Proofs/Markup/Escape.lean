/-
  Escaped text.

  1. **No delimiter is left** — `escape` leaves none of the characters that can open or close an element or
     end an attribute (`not_mem_escape`).

  2. **Nothing is lost** — a reader that knows the five entities gets the text back (`unescape_escape`), so
     different texts are escaped differently.
-/
import TodoSite.Markup

namespace TodoSite.Markup

/-- The characters that open and close elements and quote attributes. -/
def delimiters : List Char := ['<', '>', '"', '\'']

/-- The entities with which text is escaped, and what they stand for. -/
def entities : List (List Char × Char) :=
  [("&amp;".toList, '&'), ("&lt;".toList, '<'), ("&gt;".toList, '>'), ("&quot;".toList, '"'),
    ("&#39;".toList, '\'')]

/-- A character is written as its entity, or as it is if there is none for it. -/
theorem escapeChar_cases (c : Char) :
    (escapeChar c, c) ∈ entities ∨ (escapeChar c = [c] ∧ c ∉ entities.map (·.2)) := by
  -- the characters are checked as a list: a statement about all of `Char` is too much to decide
  have hall : (entities.map (·.2)).all (fun c => decide ((escapeChar c, c) ∈ entities)) = true := by decide
  by_cases h : c ∈ entities.map (·.2)
  · exact Or.inl (of_decide_eq_true (List.all_eq_true.mp hall c h))
  · refine Or.inr ⟨?_, h⟩
    simp only [entities, List.map, List.mem_cons, List.not_mem_nil, or_false, not_or] at h
    obtain ⟨hamp, hlt, hgt, hquot, hapos⟩ := h
    rw [escapeChar, if_neg hamp, if_neg hlt, if_neg hgt, if_neg hquot, if_neg hapos]

theorem not_mem_escapeChar {d : Char} (hd : d ∈ delimiters) (c : Char) : d ∉ escapeChar c := by
  have hentities : (delimiters.all fun d => entities.all fun entity => decide (d ∉ entity.1)) = true := by decide
  have hescaped : (delimiters.all fun d => decide (d ∈ entities.map (·.2))) = true := by decide
  rcases escapeChar_cases c with h | ⟨h, hc⟩
  · exact of_decide_eq_true (List.all_eq_true.mp (List.all_eq_true.mp hentities d hd) _ h)
  · rw [h, List.mem_singleton]
    rintro rfl
    exact hc (of_decide_eq_true (List.all_eq_true.mp hescaped d hd))

/-- **No delimiter** is left in escaped text. -/
theorem not_mem_escape {d : Char} (hd : d ∈ delimiters) (text : String) :
    d ∉ (escape text).toList := by
  rw [escape, String.toList_ofList, List.mem_flatMap]
  rintro ⟨c, -, hmem⟩
  exact not_mem_escapeChar hd c hmem

/-! ## Reading entities -/

/-- A text with its entities read; `passed` characters of an entity are still to be dropped. -/
def unescapeFrom : Nat → List Char → List Char
  | _, [] => []
  | passed + 1, _ :: cs => unescapeFrom passed cs
  | 0, c :: cs =>
    match entities.find? fun entity => entity.1.isPrefixOf (c :: cs) with
    | some entity => entity.2 :: unescapeFrom (entity.1.length - 1) cs
    | none => c :: unescapeFrom 0 cs

/-- `text` with what its entities stand for in their places. -/
def unescape (text : String) : String :=
  String.ofList (unescapeFrom 0 text.toList)

/-- Only `&` begins an entity. -/
theorem unescapeFrom_cons {c : Char} (hc : c ≠ '&') (cs : List Char) :
    unescapeFrom 0 (c :: cs) = c :: unescapeFrom 0 cs := by
  have hheads : ∀ entity ∈ entities, entity.1.head? = some '&' := by decide
  have hnone : (entities.find? fun entity => entity.1.isPrefixOf (c :: cs)) = none := by
    refine List.find?_eq_none.mpr fun entity hentity hprefix => ?_
    obtain ⟨rest, hrest⟩ := List.head?_eq_some_iff.mp (hheads entity hentity)
    rw [hrest] at hprefix
    exact hc (List.cons_prefix_cons.mp (List.isPrefixOf_iff_prefix.mp hprefix)).1.symm
  rw [unescapeFrom, hnone]

theorem unescapeFrom_escapeChar (c : Char) (cs : List Char) :
    unescapeFrom 0 (escapeChar c ++ cs) = c :: unescapeFrom 0 cs := by
  have hread : ∀ entity ∈ entities, unescapeFrom 0 (entity.1 ++ cs) = entity.2 :: unescapeFrom 0 cs := by
    simp only [entities, List.forall_mem_cons]
    exact ⟨rfl, rfl, rfl, rfl, rfl, List.forall_mem_nil _⟩
  rcases escapeChar_cases c with h | ⟨h, hc⟩
  · exact hread _ h
  · have hamp : c ≠ '&' := by
      rintro rfl
      exact hc (by decide)
    rw [h]
    exact unescapeFrom_cons hamp cs

/-- **What has been escaped is read back**, whatever text it is. -/
theorem unescape_escape (text : String) : unescape (escape text) = text := by
  have hread : ∀ cs : List Char, unescapeFrom 0 (cs.flatMap escapeChar) = cs := by
    intro cs
    induction cs with
    | nil => rfl
    | cons c cs ih => rw [List.flatMap_cons, unescapeFrom_escapeChar, ih]
  rw [unescape, escape, String.toList_ofList, hread, String.ofList_toList]

/-- A text that looks escaped is not taken for one. -/
example : escape "&amp;lt;" = "&amp;amp;lt;" ∧ unescape "&amp;lt;&#39;&x;&" = "&lt;'&x;&" := by decide +kernel

end TodoSite.Markup
