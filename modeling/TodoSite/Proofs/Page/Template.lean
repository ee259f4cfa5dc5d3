/-
  Filling a template.

  1. **Pieces** — a template is cut at the comments of its slots (`pieces`).  Its text is what the
     pieces write with the comments in the slots (`write_pieces`).

  2. **One after another** — filling a slot wherever its comment stands changes that slot alone, as
     long as the comment begins nowhere else (`replaceFrom_pieces`).

  3. **All at once** (`Page.fillAtOnce`) — one pass over the template, in which what has been filled in
     is not looked at again.  It writes the contents into the slots (`fillFrom_pieces`).

  CRUX.  Whether a comment begins nowhere else is asked of each piece alone (`foreign`).  That is
  enough, because a piece that is foreign does not even end with the beginning of a comment.
-/
import TodoSite.Page
import TodoSite.Proofs.Text.Replace

namespace TodoSite

open Text

/-- The comment of a slot, character by character. -/
def Slot.comment (slot : Slot) : List Char := slot.marker.toList

theorem Slot.mem_all (slot : Slot) : slot ∈ Slot.all := by
  cases slot <;> decide

/-- Whether neither the comment of a slot nor the element with the state begins in a text, whatever
    comes after it. -/
def foreign (cs : List Char) : Bool :=
  Slot.all.all (fun slot => apart slot.comment cs) && apart Markup.stateOpening.toList cs

theorem apart_of_foreign {cs : List Char} (h : foreign cs = true) (slot : Slot) :
    apart slot.comment cs = true := by
  rw [foreign, Bool.and_eq_true, List.all_eq_true] at h
  exact h.1 slot slot.mem_all

theorem apart_opening_of_foreign {cs : List Char} (h : foreign cs = true) :
    apart Markup.stateOpening.toList cs = true := by
  rw [foreign, Bool.and_eq_true] at h
  exact h.2

theorem foreign_append {cs ds : List Char} (hc : foreign cs = true) (hd : foreign ds = true) :
    foreign (cs ++ ds) = true := by
  rw [foreign, Bool.and_eq_true, List.all_eq_true]
  exact ⟨fun slot _ => apart_append (apart_of_foreign hc slot) (apart_of_foreign hd slot),
    apart_append (apart_opening_of_foreign hc) (apart_opening_of_foreign hd)⟩

/-- Text without the character `<` is foreign. -/
theorem foreign_of_not_mem {cs : List Char} (h : '<' ∉ cs) : foreign cs = true := by
  have hslots : ∀ slot : Slot, apart slot.comment cs = true := by
    intro slot
    cases slot with
    | title => exact apart_of_not_mem h
    | app => exact apart_of_not_mem h
    | state => exact apart_of_not_mem h
    | bundle => exact apart_of_not_mem h
  rw [foreign, Bool.and_eq_true, List.all_eq_true]
  exact ⟨fun slot _ => hslots slot, apart_of_not_mem h⟩

theorem apart_comment {slot other : Slot} (h : slot ≠ other) :
    apart slot.comment other.comment = true := by
  have hall : ∀ slot ∈ Slot.all, ∀ other ∈ Slot.all, slot ≠ other →
      apart slot.comment other.comment = true := by
    decide
  exact hall slot slot.mem_all other other.mem_all h

/-! ## Pieces -/

/-- A part of a template. -/
inductive Piece where
  /-- Text that stays. -/
  | fixed (cs : List Char)
  /-- A slot. -/
  | slot (slot : Slot)
  deriving DecidableEq

/-- The text of a piece, where `f` says what stands in the slots. -/
def Piece.write (f : Slot → List Char) : Piece → List Char
  | fixed cs => cs
  | slot s => f s

/-- Whether what stays is foreign. -/
def Piece.isForeign : Piece → Bool
  | fixed cs => foreign cs
  | slot _ => true

/-- A template, cut at the comments of `slots`, which come in this order. -/
def pieces : List Slot → List Char → List Piece
  | [], cs => [.fixed cs]
  | slot :: slots, cs =>
    match breakAt slot.comment cs with
    | none => [.fixed cs]
    | some (before, after) => .fixed before :: .slot slot :: pieces slots after

theorem write_pieces (slots : List Slot) (cs : List Char) :
    (pieces slots cs).flatMap (Piece.write Slot.comment) = cs := by
  induction slots generalizing cs with
  | nil => exact List.append_nil cs
  | cons slot slots ih =>
    rw [pieces]
    split
    · exact List.append_nil cs
    · rename_i before after hbreak
      rw [List.flatMap_cons, List.flatMap_cons, ih, eq_append_of_breakAt hbreak]
      rfl

/-! ## One after another -/

/-- **Replacing goes piece by piece**, when it does so in what stands in the slots. -/
theorem replaceFrom_pieces {ps : List Piece} {f g : Slot → List Char} {slot : Slot}
    {insert : List Char} (hps : ∀ p ∈ ps, p.isForeign = true)
    (hslots : ∀ s rest, replaceFrom slot.comment insert 0 (f s ++ rest)
      = g s ++ replaceFrom slot.comment insert 0 rest) :
    replaceFrom slot.comment insert 0 (ps.flatMap (Piece.write f)) = ps.flatMap (Piece.write g) := by
  induction ps with
  | nil => rfl
  | cons p ps ih =>
    have hrest := ih fun p' hp' => hps p' (List.mem_cons_of_mem _ hp')
    have hp : p.isForeign = true := hps p List.mem_cons_self
    rw [List.flatMap_cons, List.flatMap_cons, ← hrest]
    cases p with
    | fixed cs => exact replaceFrom_append (apart_of_foreign hp slot) _ _
    | slot s => exact hslots s _

/-- What stands in a slot when the slots of `done` have been filled. -/
def Page.filled (page : Page) (done : List Slot) (slot : Slot) : List Char :=
  if slot ∈ done then (page.content slot).toList else slot.comment

/-- **Filling one more slot**: what stands in the slots that have been filled must not hold the
    comment of this one. -/
theorem replaceFrom_filled {page : Page} {slot : Slot} {done : List Slot} (hnew : slot ∉ done)
    (hdone : ∀ s ∈ done, apart slot.comment (page.content s).toList = true) (s : Slot)
    (rest : List Char) :
    replaceFrom slot.comment (page.content slot).toList 0 (page.filled done s ++ rest)
      = page.filled (slot :: done) s
        ++ replaceFrom slot.comment (page.content slot).toList 0 rest := by
  by_cases hs : s = slot
  · subst hs
    have hne : s.comment ≠ [] := by cases s <;> decide
    rw [Page.filled, if_neg hnew, Page.filled, if_pos List.mem_cons_self, replaceFrom_self hne]
  · by_cases hmem : s ∈ done
    · rw [Page.filled, if_pos hmem, Page.filled, if_pos (List.mem_cons_of_mem _ hmem),
        replaceFrom_append (hdone s hmem)]
    · -- a slot still to be filled holds its own comment
      have hnone : s ∉ slot :: done := fun h => (List.mem_cons.mp h).elim hs hmem
      rw [Page.filled, if_neg hmem, Page.filled, if_neg hnone,
        replaceFrom_append (apart_comment (Ne.symm hs))]

/-! ## All at once -/

namespace Page

/-- One pass over a template; `passed` characters of a comment are still to be dropped. -/
def fillFrom (page : Page) : (passed : Nat) → (template : List Char) → List Char
  | _, [] => []
  | passed + 1, _ :: cs => page.fillFrom passed cs
  | 0, c :: cs =>
    match Slot.all.find? fun slot => slot.comment.isPrefixOf (c :: cs) with
    | some slot => (page.content slot).toList ++ page.fillFrom (slot.comment.length - 1) cs
    | none => c :: page.fillFrom 0 cs

/-- The template with all its slots filled at once. -/
def fillAtOnce (page : Page) (template : String) : String :=
  String.ofList (page.fillFrom 0 template.toList)

variable (page : Page) {cs : List Char}

theorem fillFrom_foreign (h : foreign cs = true) (rest : List Char) :
    page.fillFrom 0 (cs ++ rest) = cs ++ page.fillFrom 0 rest := by
  have hapart : ∀ slot : Slot, apart slot.comment cs = true := apart_of_foreign h
  -- the induction is on what is left: no comment begins in it
  clear h
  induction cs with
  | nil => rfl
  | cons c cs ih =>
    have hnone : Slot.all.find? (fun slot => slot.comment.isPrefixOf (c :: (cs ++ rest))) = none := by
      rw [List.find?_eq_none]
      intro slot _ hprefix
      have hdiffer := hapart slot
      rw [apart, Bool.and_eq_true] at hdiffer
      exact not_prefix_of_differ (differ_append hdiffer.1 rest)
        (List.isPrefixOf_iff_prefix.mp hprefix)
    have hcs : ∀ slot : Slot, apart slot.comment cs = true := by
      intro slot
      have hdiffer := hapart slot
      rw [apart, Bool.and_eq_true] at hdiffer
      exact hdiffer.2
    rw [List.cons_append, fillFrom, hnone, ih hcs]
    rfl

theorem fillFrom_comment (slot : Slot) (rest : List Char) :
    page.fillFrom 0 (slot.comment ++ rest)
      = (page.content slot).toList ++ page.fillFrom 0 rest := by
  cases slot with
  | title => rfl
  | app => rfl
  | state => rfl
  | bundle => rfl

/-- **One pass writes the contents** into the slots. -/
theorem fillFrom_pieces {ps : List Piece} (hps : ∀ p ∈ ps, p.isForeign = true) :
    page.fillFrom 0 (ps.flatMap (Piece.write Slot.comment))
      = ps.flatMap (Piece.write fun slot => (page.content slot).toList) := by
  induction ps with
  | nil => rfl
  | cons p ps ih =>
    have hrest := ih fun p' hp' => hps p' (List.mem_cons_of_mem _ hp')
    have hp : p.isForeign = true := hps p List.mem_cons_self
    rw [List.flatMap_cons, List.flatMap_cons, ← hrest]
    cases p with
    | fixed cs => exact page.fillFrom_foreign hp _
    | slot s => exact page.fillFrom_comment s _

end Page

end TodoSite
