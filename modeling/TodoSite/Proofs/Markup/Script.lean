/-
  A JSON value inside a script element.

  1. **Strings** — `embedded s` is what stands in the script element for the string `s`.  It spells
     `s` (`spells_embedded`), and it has no `</` (`not_infix_embedded`).

  2. **The whole text** is the text of the value with its strings written so (`toList_scriptText`).
     So it has no end tag (`not_infix_scriptText`), and a comment occurs in it just where it occurs
     in a string of the value (`infix_scriptText_iff`).

  CRUX.  The replacement works on the whole text and knows nothing of strings.  It comes to the same
  as working on each string because `</` begins with a character that stands in strings only.
-/
import TodoSite.Markup.Script
import TodoSite.Proofs.Json.Tokens

namespace TodoSite.Markup

open Json
open Text (apart replaceFrom replaceAll replaceFrom_self replaceFrom_cons replaceFrom_append
  apart_of_not_mem infix_append_cons_iff)

/-- The characters of a string as they stand in a script element. -/
def embedded (s : List Char) : List Char :=
  replaceFrom "</".toList "<\\/".toList 0 (quoted s)

/-! ## One string -/

/-- Where the next character is no `<` with a slash behind it, the replacement goes on after it. -/
theorem replaceFrom_quoteChar {c : Char} {more insert : List Char}
    (h : ¬ "</".toList <+: quoteChar c ++ more) :
    replaceFrom "</".toList insert 0 (quoteChar c ++ more)
      = quoteChar c ++ replaceFrom "</".toList insert 0 more := by
  by_cases hc : c = '<'
  · subst hc
    exact replaceFrom_cons h
  · refine replaceFrom_append (apart_of_not_mem fun hmem => ?_) insert more
    rcases quoteChar_cases c with ⟨hq, -⟩ | ⟨letters, hq, hletters⟩
    · rw [hq] at hmem
      exact hc (List.mem_singleton.mp hmem).symm
    · rw [hq] at hmem
      rcases List.mem_cons.mp hmem with h | hmem
      · cases h
      · exact absurd (hletters.letters_plain _ hmem) (by decide)

/-- **Writing `<\/` for every `</`** changes nothing of what is spelled. -/
theorem spells_embedded : ∀ s : List Char, Spells (embedded s) s
  | [] => .nil
  | c :: s => by
    rw [embedded, quoted, List.flatMap_cons]
    by_cases h : "</".toList <+: quoteChar c ++ s.flatMap quoteChar
    · obtain ⟨rest, hrest⟩ := h
      obtain ⟨rfl, hslash⟩ := eq_of_quoteChar_append (by decide) hrest.symm
      cases s with
      | nil => cases hslash
      | cons d s =>
        rw [List.flatMap_cons] at hslash
        obtain ⟨rfl, -⟩ := eq_of_quoteChar_append (by decide) hslash
        have hslash : Escapes ['/'] '/' := escapes_letter (fun _ => rfl) (by decide) (by decide)
        have hreplace := replaceFrom_self (by decide : "</".toList ≠ []) "<\\/".toList
          (s.flatMap quoteChar)
        rw [List.flatMap_cons]
        show Spells (replaceFrom "</".toList "<\\/".toList 0 ("</".toList ++ s.flatMap quoteChar)) _
        rw [hreplace]
        exact .char (by decide) (by decide) (by decide) (.escape hslash (spells_embedded s))
    · rw [replaceFrom_quoteChar h]
      rcases quoteChar_cases c with ⟨hc, hquote, hescape, hcontrol⟩ | ⟨letters, hc, hletters⟩
      · rw [hc]
        exact .char hquote hescape hcontrol (spells_embedded s)
      · rw [hc]
        exact .escape hletters (spells_embedded s)

/-- A slash that comes first after the replacement came first before it. -/
theorem slash_prefix_of_replaceFrom {xs : List Char}
    (h : ['/'] <+: replaceFrom "</".toList "<\\/".toList 0 xs) : ['/'] <+: xs := by
  by_cases hprefix : "</".toList <+: xs
  · obtain ⟨rest, rfl⟩ := hprefix
    rw [replaceFrom_self (by decide)] at h
    exact absurd (List.cons_prefix_cons.mp h).1 (by decide)
  · cases xs with
    | nil => exact h
    | cons x xs =>
      rw [replaceFrom_cons hprefix, List.cons_prefix_cons] at h
      exact List.cons_prefix_cons.mpr ⟨h.1, List.nil_prefix⟩

/-- **No `</` is left** when each has been written `<\/`. -/
theorem not_infix_replaceFrom : ∀ xs : List Char,
    ¬ "</".toList <:+: replaceFrom "</".toList "<\\/".toList 0 xs
  | [] => by decide
  | x :: xs => by
    by_cases hprefix : "</".toList <+: x :: xs
    · obtain ⟨rest, hrest⟩ := hprefix
      have hlength : rest.length < (x :: xs).length := by
        rw [← hrest, List.length_append, String.length_toList]
        exact Nat.lt_add_of_pos_left (by decide)
      rw [← hrest, replaceFrom_self (by decide)]
      show ¬ "</".toList <:+: ['<'] ++ '\\' :: '/' :: replaceFrom _ _ 0 rest
      rw [infix_append_cons_iff (by decide)]
      rintro (h | h)
      · exact absurd h (by decide)
      · rcases List.infix_cons_iff.mp h with h | h
        · exact absurd (List.cons_prefix_cons.mp h).1 (by decide)
        · exact not_infix_replaceFrom rest h
    · rw [replaceFrom_cons hprefix, List.infix_cons_iff]
      rintro (h | h)
      · obtain ⟨rfl, hslash⟩ := List.cons_prefix_cons.mp h
        exact hprefix (List.cons_prefix_cons.mpr ⟨rfl, slash_prefix_of_replaceFrom hslash⟩)
      · exact not_infix_replaceFrom xs h
termination_by xs => xs.length
decreasing_by
  · exact hlength
  · exact Nat.lt_succ_self _

theorem not_infix_embedded (s : List Char) : ¬ "</".toList <:+: embedded s :=
  not_infix_replaceFrom (quoted s)

/-! ## The whole text -/

/-- **The text of a value in a script element** is its text with the strings written otherwise. -/
theorem toList_scriptText (v : Json) : (scriptText v).toList = write embedded (tokens v) := by
  have hslash : "</".toList = ['<', '/'] := by decide
  have hreplace := replaceFrom_write (q := quoted) (tokens_lack v) (by decide : '"' ∉ ['<', '/'])
    "<\\/".toList []
  rw [List.append_nil, ← hslash] at hreplace
  rw [scriptText, replaceAll, String.toList_ofList, toList_render, hreplace]
  exact List.append_nil _

/-- **There is no end tag** in it, nor the beginning of one. -/
theorem not_infix_scriptText (v : Json) : ¬ "</".toList <:+: (scriptText v).toList := by
  have hslash : "</".toList = ['<', '/'] := by decide
  rw [toList_scriptText, hslash, infix_write_iff (tokens_lack v) (by decide)]
  rintro ⟨s, -, h⟩
  exact not_infix_embedded s.toList (hslash ▸ h)

/-- The script element ends where its text ends. -/
theorem apart_scriptText_closing (v : Json) :
    apart scriptClosing.toList (scriptText v).toList = true := by
  have hclosing : scriptClosing.toList = '<' :: "/script>".toList := by decide
  have hbegin : "</".toList <+: scriptClosing.toList := by decide
  rw [toList_scriptText, hclosing]
  refine apart_write (tokens_lack v) (by decide) fun s _ h => ?_
  exact not_infix_embedded s.toList (hbegin.isInfix.trans (hclosing ▸ h))

variable {ds : List Char}

/-- **A needle of plain characters** that begins with `<` occurs in it where it occurs in a string of
    the value. -/
theorem infix_scriptText_iff (v : Json) (hplain : ∀ d ∈ '<' :: ds, isPlain d = true) :
    '<' :: ds <:+: (scriptText v).toList
      ↔ ∃ s, Token.text s ∈ tokens v ∧ '<' :: ds <:+: s.toList := by
  have hquote : '"' ∉ '<' :: ds := fun hmem => absurd (hplain _ hmem) (by decide)
  rw [toList_scriptText, infix_write_iff (tokens_lack v) hquote]
  refine exists_congr fun s => and_congr_right fun _ => ?_
  exact (spells_embedded s.toList).infix_iff (List.cons_ne_nil _ _) hplain

end TodoSite.Markup
