/-
  The search for the next key, turn by turn.

  A search (`Search`) tries one number after another, and no count of turns stops it.  Its counter holds numbers
  up to some greatest one, `top`, and is raised before the key is looked for; where it cannot be raised, the
  search is over without a key.

  1. **The least free number** (`isLeast_number`) — `nextKey` gives out the first number that is free.

  2. **The search ends** (`Search.ends_of_isLeast`) — at that number, or where the counter cannot be raised, if
     that comes first; and in no other way (`Search.Ends.unique`).

  3. **Calls in a row** (`next_afterAll_le`, `serves_iff`) — how far they raise the counter, and that a counter
     is large enough for them just when it holds the number they leave.

  CRUX.  A call raises the counter in two ways.  It lifts it above the length of the list, which over all calls
  comes to the length of the longest list; and it passes over taken numbers, each time as many as the list is
  long at most, which adds up.
-/
import Mathlib.Algebra.Ring.Nat
import Mathlib.Order.Bounds.Basic
import TodoSite.Proofs.KeySequence

namespace TodoSite.KeySequence

/-! ## The least free number -/

/-- The numbers from `first` on whose keys are not in `taken`. -/
def free (taken : List String) (first : Nat) : Set Nat := {n | first ≤ n ∧ key n ∉ taken}

variable {taken : List String} {top first n : Nat}

/-- **The next number is the least free one.** -/
theorem isLeast_number (s : KeySequence) (taken : List String) :
    IsLeast (free taken (max s.next (taken.length + 1))) (s.number taken) := by
  refine ⟨⟨le_firstFree _ _ _, s.key_number_not_mem taken⟩, ?_⟩
  rintro m ⟨hfrom, hfree⟩
  by_contra hlt
  exact hfree (taken_of_lt_firstFree hfrom (Nat.lt_of_not_le hlt))

/-- It passes over no more numbers than there are taken keys. -/
theorem number_le (s : KeySequence) (taken : List String) :
    s.number taken ≤ max s.next (taken.length + 1) + taken.length :=
  firstFree_le taken taken.length _

theorem mem_taken_of_isLeast (h : IsLeast (free taken first) n) (hlt : first < n) : key first ∈ taken := by
  by_contra hfree
  have hle : n ≤ first := h.2 ⟨Nat.le_refl first, hfree⟩
  omega

theorem isLeast_free_succ (h : IsLeast (free taken first) n) (hlt : first < n) :
    IsLeast (free taken (first + 1)) n :=
  ⟨⟨hlt, h.1.2⟩, fun _ hm => h.2 ⟨Nat.le_of_succ_le hm.1, hm.2⟩⟩

/-! ## The search -/

/-- A search for a key, between two turns. -/
inductive Search where
  /-- It goes on with the number in its counter. -/
  | trying (counter : Nat)
  /-- It is over; it has given out a key and left a sequence. -/
  | given (key : String) (left : KeySequence)
  /-- It is over, because its counter could not be raised. -/
  | overflow
  deriving DecidableEq, Repr

namespace Search

/-- A search after one more turn, with a counter that holds numbers up to `top`. -/
def turn (top : Nat) (taken : List String) : Search → Search
  | .trying counter =>
    if counter < top then
      if key counter ∈ taken then .trying (counter + 1) else .given (key counter) ⟨counter + 1⟩
    else .overflow
  | ended => ended

/-- `Ends top taken x k y`: the search goes on from `x` for `k` turns, and is over then, as `y`. -/
inductive Ends (top : Nat) (taken : List String) : Search → Nat → Search → Prop where
  /-- A key has been given out. -/
  | given (key : String) (left : KeySequence) : Ends top taken (.given key left) 0 (.given key left)
  /-- The counter could not be raised. -/
  | overflow : Ends top taken .overflow 0 .overflow
  /-- One turn, and what follows. -/
  | turn {counter k : Nat} {y : Search} (hrest : Ends top taken (turn top taken (.trying counter)) k y) :
    Ends top taken (.trying counter) (k + 1) y

theorem turn_of_mem (htop : n < top) (htaken : key n ∈ taken) :
    turn top taken (.trying n) = .trying (n + 1) := by
  rw [turn, if_pos htop, if_pos htaken]

theorem turn_of_not_mem (htop : n < top) (hfree : key n ∉ taken) :
    turn top taken (.trying n) = .given (key n) ⟨n + 1⟩ := by
  rw [turn, if_pos htop, if_neg hfree]

theorem turn_of_top_le (taken : List String) (htop : top ≤ n) : turn top taken (.trying n) = .overflow := by
  rw [turn, if_neg (Nat.not_lt.mpr htop)]

/-- The search ends in one way. -/
theorem Ends.unique {x y y' : Search} {k k' : Nat} (h : Ends top taken x k y) (h' : Ends top taken x k' y') :
    k = k' ∧ y = y' := by
  induction h generalizing k' y' with
  | given key left =>
    cases h'
    exact ⟨rfl, rfl⟩
  | overflow =>
    cases h'
    exact ⟨rfl, rfl⟩
  | turn hrest ih =>
    cases h' with
    | turn hrest' =>
      obtain ⟨rfl, rfl⟩ := ih hrest'
      exact ⟨rfl, rfl⟩

/-- **The search ends** at the least free number, unless its counter cannot be raised up to it. -/
theorem ends_of_isLeast (top : Nat) (h : IsLeast (free taken first) n) :
    Ends top taken (.trying first) (min n top - first + 1)
      (if n < top then .given (key n) ⟨n + 1⟩ else .overflow) := by
  have hle : first ≤ n := h.1.1
  induction hd : n - first generalizing first with
  | zero =>
    obtain rfl : first = n := by omega
    rw [show min first top - first = 0 by omega]
    refine .turn ?_
    rcases Nat.lt_or_ge first top with htop | htop
    · rw [turn_of_not_mem htop h.1.2, if_pos htop]
      exact .given _ _
    · rw [turn_of_top_le taken htop, if_neg (Nat.not_lt.mpr htop)]
      exact .overflow
  | succ d ih =>
    have hlt : first < n := by omega
    rcases Nat.lt_or_ge first top with htop | htop
    · -- this number is taken, and the same number is the least free one from the next on
      have hrest := ih (isLeast_free_succ h hlt) hlt (by omega)
      rw [show min n top - first = min n top - (first + 1) + 1 by omega]
      refine .turn ?_
      rw [turn_of_mem htop (mem_taken_of_isLeast h hlt)]
      exact hrest
    · rw [show min n top - first = 0 by omega, if_neg (by omega)]
      refine .turn ?_
      rw [turn_of_top_le taken htop]
      exact .overflow

end Search

/-! ## Calls in a row -/

/-- The sequence after a key has been given out for each list of taken keys, one after another. -/
def afterAll (s : KeySequence) (calls : List (List String)) : KeySequence :=
  calls.foldl (fun s taken => (s.nextKey taken).2) s

/-- The length of the longest list that keys are given out for. -/
def longest (calls : List (List String)) : Nat :=
  (calls.map List.length).foldr max 0

/-- `Serves top s calls s'`: from `s` on, each search of `calls` gives out a key, with a counter that holds
    numbers up to `top`, and the last one leaves `s'`. -/
inductive Serves (top : Nat) : KeySequence → List (List String) → KeySequence → Prop where
  /-- No call. -/
  | nil (s : KeySequence) : Serves top s [] s
  /-- A first search, and those after it. -/
  | cons {s left s' : KeySequence} {taken : List String} {calls : List (List String)} {k : Nat} {key : String}
    (hends : Search.Ends top taken (.trying (max s.next (taken.length + 1))) k (.given key left))
    (hrest : Serves top left calls s') : Serves top s (taken :: calls) s'

variable {s s' : KeySequence} {calls : List (List String)}

/-- **One call** raises the counter. -/
theorem next_lt_next_nextKey (s : KeySequence) (taken : List String) : s.next < (s.nextKey taken).2.next :=
  Nat.lt_succ_of_le (s.next_le_number taken)

theorem next_le_next_afterAll (s : KeySequence) (calls : List (List String)) :
    s.next ≤ (s.afterAll calls).next := by
  induction calls generalizing s with
  | nil => exact Nat.le_refl _
  | cons taken calls ih => exact Nat.le_trans (Nat.le_of_lt (s.next_lt_next_nextKey taken)) (ih _)

/-- **Calls in a row** raise the counter above the longest list once, and then by what each list can cost. -/
theorem next_afterAll_le (s : KeySequence) (calls : List (List String)) :
    (s.afterAll calls).next
      ≤ max s.next (longest calls + 1) + (calls.map fun taken => 1 + taken.length).sum := by
  induction calls generalizing s with
  | nil => exact Nat.le_trans (Nat.le_max_left _ _) (Nat.le_add_right _ _)
  | cons taken calls ih =>
    have hcall : (s.nextKey taken).2.next ≤ max s.next (taken.length + 1) + taken.length + 1 :=
      Nat.succ_le_succ (s.number_le taken)
    have hrest := ih (s.nextKey taken).2
    have hlongest : longest (taken :: calls) = max taken.length (longest calls) := rfl
    rw [List.map_cons, List.sum_cons, hlongest]
    show ((s.nextKey taken).2.afterAll calls).next ≤ _
    omega

/-- The search of a call ends with what `nextKey` gives, unless the counter is too small for it. -/
theorem search_ends (top : Nat) (s : KeySequence) (taken : List String) :
    Search.Ends top taken (.trying (max s.next (taken.length + 1)))
      (min (s.number taken) top - max s.next (taken.length + 1) + 1)
      (if s.number taken < top then .given (s.nextKey taken).1 (s.nextKey taken).2 else .overflow) :=
  Search.ends_of_isLeast top (s.isLeast_number taken)

/-- **A counter is large enough** for calls in a row just when it holds the number that they leave. -/
theorem serves_iff (hs : s.next ≤ top) :
    Serves top s calls s' ↔ s' = s.afterAll calls ∧ s'.next ≤ top := by
  induction calls generalizing s with
  | nil =>
    constructor
    · intro h
      cases h
      exact ⟨rfl, hs⟩
    · rintro ⟨rfl, -⟩
      exact .nil _
  | cons taken calls ih =>
    have hends := s.search_ends top taken
    constructor
    · intro h
      cases h with
      | cons hcall hrest =>
        have he := (hcall.unique hends).2
        by_cases htop : s.number taken < top
        · rw [if_pos htop] at he
          obtain ⟨-, rfl⟩ := Search.given.inj he
          exact (ih htop).mp hrest
        · rw [if_neg htop] at he
          cases he
    · rintro ⟨rfl, hle⟩
      have htop : s.number taken < top := Nat.le_trans (next_le_next_afterAll (s.nextKey taken).2 calls) hle
      rw [if_pos htop] at hends
      exact .cons hends ((ih htop).mpr ⟨rfl, hle⟩)

/-- **The next key is the least free one, and the search for it stops.**  Whatever the sequence and the taken keys
    are, the number of the next key is the least free one that is neither below the counter nor within the length
    of the list, and the counter is left right above it.  The search is over after one turn more than there are
    taken keys, at most; it has given out this key then, provided that its counter can hold the number above.
    A new sequence that has given out keys for `calls` is left at one above the length of the longest list, and
    one more than its length for each list, at most.  All its searches give out keys just when the counter can
    hold the number that is left. -/
theorem gives_least_free_key (top : Nat) (s : KeySequence) (taken : List String) (calls : List (List String)) :
    (∃ n, IsLeast {m | max s.next (taken.length + 1) ≤ m ∧ key m ∉ taken} n
      ∧ s.nextKey taken = (key n, ⟨n + 1⟩)
      ∧ s.next < n + 1
      ∧ ∃ turns, turns ≤ taken.length + 1
        ∧ Search.Ends top taken (.trying (max s.next (taken.length + 1))) turns
          (if n < top then .given (key n) ⟨n + 1⟩ else .overflow))
    ∧ (afterAll {} calls).next ≤ longest calls + 1 + (calls.map fun taken => 1 + taken.length).sum
    ∧ ∀ s', Serves top {} calls s' ↔ s' = afterAll {} calls ∧ s'.next ≤ top := by
  refine ⟨⟨s.number taken, s.isLeast_number taken, rfl, s.next_lt_next_nextKey taken, _, ?_,
    s.search_ends top taken⟩, ?_, fun s' => serves_iff (Nat.zero_le top)⟩
  · have := s.number_le taken
    omega
  · have hbound := next_afterAll_le {} calls
    rwa [Nat.max_eq_right (Nat.zero_le _)] at hbound

/-- The bound is reached. -/
example : (afterAll {} [["item3", "item4"]]).next = longest [["item3", "item4"]] + 1 + (1 + 2) := by
  decide +kernel

end TodoSite.KeySequence
