/-
  Reading back lists and objects from their tokens.

  The strings are written by any `q` that spells them (`hq`).  Each lemma takes one step of a reader:
  a string, a truth value, one member of an object, the whole of a list.  A reader of records is then
  followed member by member, in the order in which they are written.

  CRUX.  The readers count their steps by the length of the text.  A member takes more than one
  character and so does an element, so the count never runs out; that is all that is asked of it.
-/
import TodoSite.Json.Record
import TodoSite.Proofs.Json.Tokens

namespace TodoSite.Json.Reader

variable {q : List Char → List Char} (hq : ∀ s, Spells (q s) s)
include hq

/-! ## Single values -/

theorem string_write (s : String) (rest : List Char) :
    string (q s.toList ++ '"' :: rest) = .ok (s, rest) := by
  rw [(hq s.toList).string, String.ofList_toList]

/-- **A string** is read back. -/
theorem text_write (s : String) (rest : List Char) :
    text (Token.write q (.text s) ++ rest) = .ok (s, rest) := by
  rw [write_text_append]
  exact string_write hq s rest

theorem text?_write (s : String) (rest : List Char) :
    text? (Token.write q (.text s) ++ rest) = .ok (some s, rest) := by
  have htext := text_write hq s rest
  rw [write_text_append] at htext ⊢
  show (text _).map _ = _
  rw [htext]
  rfl

omit hq in
/-- **A truth value** is read back. -/
theorem boolean_write (b : Bool) (rest : List Char) :
    boolean ((if b then "true".toList else "false".toList) ++ rest) = .ok (b, rest) := by
  cases b with
  | true => rfl
  | false => rfl

/-! ## Members -/

/-- The name of the first member. -/
theorem name?_first (name : String) (cs : List Char) :
    name? true (Token.write q (.text name) ++ cs) = .ok (some name, cs) := by
  rw [write_text_append]
  show (string _).map _ = _
  rw [string_write hq]
  rfl

/-- The name of a member that comes after a comma. -/
theorem name?_next (name : String) (cs : List Char) :
    name? false (',' :: (Token.write q (.text name) ++ cs)) = .ok (some name, cs) := by
  rw [write_text_append]
  show (string _).map _ = _
  rw [string_write hq]
  rfl

omit hq

/-- **One member**: its value goes into the record. -/
theorem membersFrom_member {σ α : Type} {record : Record σ} {first : Bool} {name : String}
    {get? : σ → Option α} {set : σ → α → σ} {read : Reader α} {s : σ} {a : α}
    {cs ds rest : List Char} (hname : name? first cs = .ok (some name, ':' :: ds))
    (hrecord : record.field? name = some (field name get? set read)) (hnew : get? s = none)
    (hread : read ds = .ok (a, rest)) (fuel : Nat) :
    membersFrom record (fuel + 1) first s cs = membersFrom record fuel false (set s a) rest := by
  have hcolon : colon (':' :: ds) = .ok ds := rfl
  rw [membersFrom, hname, ok_bind]
  dsimp only
  rw [hrecord]
  dsimp only
  rw [field, hnew]
  dsimp only
  rw [hcolon, ok_bind, hread]
  rfl

/-! ## Lists -/

section Lists

variable {α : Type} {read : Reader α} {f : α → List Token}

theorem length_le_flatMap (g : α → List Char) (as : List α) :
    as.length ≤ (as.flatMap fun a => ',' :: g a).length := by
  induction as with
  | nil => exact Nat.le_refl _
  | cons a as ih =>
    rw [List.flatMap_cons, List.length_append, List.length_cons, List.length_cons]
    omega

/-- The elements of a list after the first, each behind a comma. -/
theorem write_separated (ts : List Token) (as : List α) :
    write q (separated (ts :: as.map f))
      = write q ts ++ as.flatMap fun a => ',' :: write q (f a) := by
  induction as generalizing ts with
  | nil => exact (List.append_nil _).symm
  | cons a as ih =>
    rw [List.map_cons, separated, write_append, write_cons, ih, List.flatMap_cons]
    · rfl
    · exact List.cons_ne_nil _ _

variable (hread : ∀ a rest, read (write q (f a) ++ rest) = .ok (a, rest))
  (hbegin : ∀ a, ∃ cs, write q (f a) = '\x7b' :: cs)
include hread hbegin

theorem element?_first (a : α) (rest : List Char) :
    element? read true (write q (f a) ++ rest) = .ok (some a, rest) := by
  obtain ⟨cs, hcs⟩ := hbegin a
  have hmore : more true (write q (f a) ++ rest) = .ok (true, write q (f a) ++ rest) := by
    rw [hcs]
    rfl
  rw [element?, hmore, ok_bind]
  dsimp only
  rw [hread]
  rfl

theorem element?_next (a : α) (rest : List Char) :
    element? read false (',' :: (write q (f a) ++ rest)) = .ok (some a, rest) := by
  obtain ⟨cs, hcs⟩ := hbegin a
  have hmore : more false (',' :: (write q (f a) ++ rest)) = .ok (true, write q (f a) ++ rest) := by
    rw [hcs]
    rfl
  rw [element?, hmore, ok_bind]
  dsimp only
  rw [hread]
  rfl

theorem elementsFrom_rest (as : List α) {fuel : Nat} (hfuel : as.length < fuel) (rest : List Char) :
    elementsFrom read fuel false ((as.flatMap fun a => ',' :: write q (f a)) ++ ']' :: rest)
      = .ok (as, rest) := by
  induction as generalizing fuel with
  | nil =>
    obtain ⟨fuel, rfl⟩ : ∃ k, fuel = k + 1 := ⟨fuel - 1, by omega⟩
    rfl
  | cons a as ih =>
    rw [List.length_cons] at hfuel
    obtain ⟨fuel, rfl⟩ : ∃ k, fuel = k + 1 := ⟨fuel - 1, by omega⟩
    rw [List.flatMap_cons, List.cons_append, List.cons_append, List.append_assoc, elementsFrom,
      element?_next hread hbegin, ok_bind]
    dsimp only
    rw [ih (by omega)]
    rfl

/-- **A list** is read back, when each of its elements is and begins with a brace. -/
theorem list_write (as : List α) (rest : List Char) :
    list read ('[' :: (write q (separated (as.map f)) ++ ']' :: rest)) = .ok (as, rest) := by
  show elementsFrom read _ true _ = _
  cases as with
  | nil => rfl
  | cons a as =>
    have hlength := length_le_flatMap (fun a => write q (f a)) as
    rw [List.map_cons, write_separated, List.append_assoc, elementsFrom,
      element?_first hread hbegin, ok_bind]
    dsimp only
    rw [elementsFrom_rest hread hbegin as ?_]
    · rfl
    · rw [List.length_append, List.length_append, List.length_cons]
      omega

end Lists

end TodoSite.Json.Reader
