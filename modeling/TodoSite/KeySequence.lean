/-
  Keys for new items.

  A new item gets the key `item` followed by a number.  The sequence remembers the least number
  that it may still give out; it starts above the length of the list, passes over numbers whose
  keys are taken, and never goes back.  So two keys of one sequence differ, even when the list has
  shrunk in between or the items of earlier keys have not arrived in it yet.

  CRUX.  Of any `taken.length + 1` consecutive numbers at least one is free, because different
  numbers have different keys.  So `firstFree` needs `taken.length` steps at most, and its bound is
  never what ends it.
-/
namespace TodoSite

/-- The least number that may still be given out. -/
structure KeySequence where
  /-- Every number given out so far is below this one. -/
  next : Nat := 0
  deriving DecidableEq, Repr, Inhabited

namespace KeySequence

/-- The key with the number `n`. -/
def key (n : Nat) : String := "item" ++ Nat.repr n

/-- The least number from `n` on whose key is not in `taken`, if it comes within `steps` steps. -/
def firstFree (taken : List String) : (steps n : Nat) → Nat
  | 0, n => n
  | steps + 1, n => if key n ∈ taken then firstFree taken steps (n + 1) else n

/-- The number of the next key in a list that holds the keys `taken`. -/
def number (s : KeySequence) (taken : List String) : Nat :=
  firstFree taken taken.length (max s.next (taken.length + 1))

/-- A key for a new item of a list that holds the keys `taken`, and the sequence afterwards. -/
def nextKey (s : KeySequence) (taken : List String) : String × KeySequence :=
  (key (s.number taken), ⟨s.number taken + 1⟩)

end KeySequence

end TodoSite
