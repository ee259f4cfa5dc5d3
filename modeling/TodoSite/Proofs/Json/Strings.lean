/-
  How the strings of JSON are spelled.

  1. **Spelling** (`Spells cs s`) — the text `cs`, between quotation marks, spells the characters `s`.
     A character is spelled by itself or by an escape.  Every spelling is read back
     (`Spells.string`).

  2. **What is written spells what was meant** (`spells_quoteChar`).

  3. **Occurrences** — a needle of plain characters occurs in a spelling just where it occurs in what
     is spelled (`Spells.infix_iff`).

  CRUX.  A slash may be spelled in two ways, by itself and after a backslash.  So spelling is a
  relation and no function, and what is proved of a text holds however its slashes are spelled.
-/
import TodoSite.Json.Scan
import TodoSite.Json.Value
import TodoSite.Proofs.Text.Replace

namespace TodoSite.Json

open Reader Text

/-- Whether `c` is spelled by itself only, and is part of no escape. -/
def isPlain (c : Char) : Bool :=
  decide (0x20 ≤ c.toNat) && decide (c ∉ "\"\\/bfnrtu0123456789abcdef".toList)

/-- `letters` are an escape for `c`, after its backslash. -/
structure Escapes (letters : List Char) (c : Char) : Prop where
  /-- The reader takes them for `c`. -/
  reads : ∀ rest, escape (letters ++ rest) = .ok (c, rest)
  /-- No plain character is needed. -/
  letters_plain : ∀ d ∈ letters, isPlain d = false
  /-- No plain character is written. -/
  char_plain : isPlain c = false

/-- `cs`, between quotation marks, spells the characters `s`. -/
inductive Spells : (cs s : List Char) → Prop
  /-- Nothing spells nothing. -/
  | nil : Spells [] []
  /-- A character that is spelled by itself. -/
  | char {c : Char} {cs s : List Char} (hquote : c ≠ '"') (hescape : c ≠ '\\')
      (hcontrol : 0x20 ≤ c.toNat) (h : Spells cs s) : Spells (c :: cs) (c :: s)
  /-- A character that is spelled by an escape. -/
  | escape {c : Char} {letters cs s : List Char} (hletters : Escapes letters c) (h : Spells cs s) :
      Spells ('\\' :: (letters ++ cs)) (c :: s)

variable {cs s needle : List Char}

/-! ## Reading -/

/-- What has been read is handed on. -/
theorem ok_bind {ε α β : Type} (a : α) (f : α → Except ε β) : (Except.ok a >>= f) = f a := rfl

theorem Spells.stringFrom (h : Spells cs s) {fuel : Nat} (hfuel : cs.length < fuel)
    (read rest : List Char) :
    stringFrom fuel read (cs ++ '"' :: rest) = .ok (String.ofList (read.reverse ++ s), rest) := by
  induction h generalizing fuel read with
  | nil =>
    obtain ⟨fuel, rfl⟩ : ∃ k, fuel = k + 1 := ⟨fuel - 1, by omega⟩
    rw [List.nil_append, Reader.stringFrom, if_pos rfl, List.append_nil]
  | @char c cs s hquote hescape hcontrol _ ih =>
    rw [List.length_cons] at hfuel
    obtain ⟨fuel, rfl⟩ : ∃ k, fuel = k + 1 := ⟨fuel - 1, by omega⟩
    rw [List.cons_append, Reader.stringFrom, if_neg hquote, if_neg hescape, if_neg (by omega),
      ih (by omega), List.reverse_cons, List.append_assoc]
    rfl
  | @escape c letters cs s hletters _ ih =>
    rw [List.length_cons, List.length_append] at hfuel
    obtain ⟨fuel, rfl⟩ : ∃ k, fuel = k + 1 := ⟨fuel - 1, by omega⟩
    rw [List.cons_append, Reader.stringFrom, if_neg (by decide), if_pos rfl, List.append_assoc,
      hletters.reads, ok_bind]
    show Reader.stringFrom fuel (c :: read) (cs ++ '"' :: rest) = _
    rw [ih (by omega), List.reverse_cons, List.append_assoc]
    rfl

/-- **A spelling is read back**, whatever comes after the string. -/
theorem Spells.string (h : Spells cs s) (rest : List Char) :
    string (cs ++ '"' :: rest) = .ok (String.ofList s, rest) := by
  have hfuel : cs.length < (cs ++ '"' :: rest).length := by
    rw [List.length_append, List.length_cons]
    omega
  exact h.stringFrom hfuel [] rest

/-! ## Writing -/

/-- An escape of one letter. -/
theorem escapes_letter {letter c : Char} (h : ∀ rest, escape (letter :: rest) = .ok (c, rest))
    (hletter : isPlain letter = false) (hc : isPlain c = false) : Escapes [letter] c where
  reads := h
  letters_plain _ hd := List.mem_singleton.mp hd ▸ hletter
  char_plain := hc

theorem hexUnit?_control : ∀ n < 0x20,
    hexUnit? '0' '0' (Nat.digitChar (n / 16)) (Nat.digitChar (n % 16)) = some n := by
  decide

theorem isPlain_digitChar : ∀ n < 16, isPlain (Nat.digitChar n) = false := by
  decide

/-- A control character by its number. -/
theorem escapes_control {c : Char} (hc : c.toNat < 0x20) :
    Escapes ['u', '0', '0', Nat.digitChar (c.toNat / 16), Nat.digitChar (c.toNat % 16)] c where
  reads rest := by
    have hunit : hexUnit ('0' :: '0' :: Nat.digitChar (c.toNat / 16)
        :: Nat.digitChar (c.toNat % 16) :: rest) = .ok (c.toNat, rest) := by
      rw [hexUnit, hexUnit?_control _ hc]
    have hlow : isLowSurrogate c.toNat = false := by
      rw [isLowSurrogate, decide_eq_false (by omega), Bool.false_and]
    have hhigh : isHighSurrogate c.toNat = false := by
      rw [isHighSurrogate, decide_eq_false (by omega), Bool.false_and]
    show escape ('u' :: '0' :: '0' :: Nat.digitChar (c.toNat / 16)
      :: Nat.digitChar (c.toNat % 16) :: rest) = _
    rw [escape, hunit, ok_bind]
    dsimp only
    rw [hlow, hhigh, if_neg Bool.false_ne_true, if_neg Bool.false_ne_true, Char.ofNat_toNat]
    rfl
  letters_plain d hd := by
    simp only [List.mem_cons, List.not_mem_nil, or_false] at hd
    rcases hd with rfl | rfl | rfl | rfl | rfl
    · decide
    · decide
    · decide
    · exact isPlain_digitChar _ (by omega)
    · exact isPlain_digitChar _ (by omega)
  char_plain := by
    rw [isPlain, decide_eq_false (by omega), Bool.false_and]

/-- A character is written as it is or as an escape. -/
theorem quoteChar_cases (c : Char) :
    quoteChar c = [c] ∧ c ≠ '"' ∧ c ≠ '\\' ∧ 0x20 ≤ c.toNat
      ∨ ∃ letters, quoteChar c = '\\' :: letters ∧ Escapes letters c := by
  unfold quoteChar
  -- the seven characters that have a letter of their own
  iterate 7
    split
    · rename_i h
      subst h
      exact Or.inr ⟨_, rfl, escapes_letter (fun _ => rfl) (by decide) (by decide)⟩
  split
  · rename_i hcontrol
    exact Or.inr ⟨_, rfl, escapes_control hcontrol⟩
  · rename_i hquote hescape _ _ _ _ _ hcontrol
    exact Or.inl ⟨rfl, hquote, hescape, by omega⟩

/-- **What is written** spells what was meant. -/
theorem spells_quoteChar (s : List Char) : Spells (s.flatMap quoteChar) s := by
  induction s with
  | nil => exact .nil
  | cons c s ih =>
    rw [List.flatMap_cons]
    rcases quoteChar_cases c with ⟨hc, hquote, hescape, hcontrol⟩ | ⟨letters, hc, hletters⟩
    · rw [hc]
      exact .char hquote hescape hcontrol ih
    · rw [hc]
      exact .escape hletters ih

/-- Only the backslash of an escape comes first without being what is spelled. -/
theorem eq_of_quoteChar_append {c d : Char} {more rest : List Char} (hd : d ≠ '\\')
    (h : quoteChar c ++ more = d :: rest) : c = d ∧ more = rest := by
  rcases quoteChar_cases c with ⟨hc, -⟩ | ⟨letters, hc, -⟩
  · rw [hc] at h
    exact List.cons.inj h
  · rw [hc] at h
    exact absurd (List.cons.inj h).1.symm hd

/-! ## Occurrences -/

theorem Spells.prefix_iff (h : Spells cs s) (hplain : ∀ d ∈ needle, isPlain d = true) :
    needle <+: cs ↔ needle <+: s := by
  induction needle generalizing cs s with
  | nil => exact ⟨fun _ => List.nil_prefix, fun _ => List.nil_prefix⟩
  | cons d ds ih =>
    have hd : isPlain d = true := hplain d List.mem_cons_self
    cases h with
    | nil => exact Iff.rfl
    | char _ _ _ h =>
      rw [List.cons_prefix_cons, List.cons_prefix_cons, ih h fun x hx =>
        hplain x (List.mem_cons_of_mem _ hx)]
    | escape hletters _ =>
      rw [List.cons_prefix_cons, List.cons_prefix_cons]
      constructor
      · rintro ⟨rfl, -⟩
        exact absurd hd (by decide)
      · rintro ⟨rfl, -⟩
        exact absurd hd (Bool.eq_false_iff.mp hletters.char_plain)

/-- **A needle of plain characters** occurs in a spelling where it occurs in what is spelled. -/
theorem Spells.infix_iff (h : Spells cs s) (hne : needle ≠ [])
    (hplain : ∀ d ∈ needle, isPlain d = true) : needle <:+: cs ↔ needle <:+: s := by
  have hskip : ∀ {c : Char} {xs : List Char}, isPlain c = false →
      (needle <:+: c :: xs ↔ needle <:+: xs) := by
    intro c xs hc
    have hmem : c ∉ needle := fun hmem => absurd (hplain c hmem) (Bool.eq_false_iff.mp hc)
    have hcut := infix_append_cons_iff hmem [] xs
    rw [List.infix_nil] at hcut
    exact hcut.trans ⟨fun h => h.resolve_left hne, Or.inr⟩
  induction h with
  | nil => exact Iff.rfl
  | char hquote hescape hcontrol h ih =>
    rw [List.infix_cons_iff, List.infix_cons_iff]
    exact or_congr ((Spells.char hquote hescape hcontrol h).prefix_iff hplain) ih
  | @escape c letters cs s hletters _ ih =>
    have hletters' : needle <:+: letters ++ cs ↔ needle <:+: cs := by
      have hall := hletters.letters_plain
      clear hletters ih
      induction letters with
      | nil => exact Iff.rfl
      | cons d letters ih =>
        rw [List.cons_append]
        exact (hskip (hall d List.mem_cons_self)).trans
          (ih fun x hx => hall x (List.mem_cons_of_mem _ hx))
    exact (hskip (by decide)).trans (hletters'.trans (ih.trans (hskip hletters.char_plain).symm))

end TodoSite.Json
