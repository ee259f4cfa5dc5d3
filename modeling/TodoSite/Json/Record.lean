/-
  Reading records.

  A record may be written as an object, whose members come in any order, or as a list of its fields
  in their own order.  `members` reads an object for a record of any kind: what a member does to the
  record read so far is a parameter.  `element?` reads the next element of a list.

  CRUX.  Some faults are known before their place is: a field that comes twice, one that is missing,
  a list that is too short.  Such a fault lies where the record would end if nothing more were wrong:
  white space and the closing bracket, if they come next, still count as read.
-/
import TodoSite.Json.Skip

namespace TodoSite.Json.Reader

/-! ## The beginning of a value -/

/-- The fault of a value that is not of the type `expected`.  A faulty value is reported for what is
    wrong inside it, and of an array or an object only the bracket counts. -/
def refuse (expected : Expected) (rest : List Char) : Fault :=
  let wrong (read : Except Fault (Found × List Char)) : Fault :=
    match read with
    | .ok (found, rest) => .after (.wrongType found expected) rest
    | .error fault => fault
  match rest with
  | [] => .after .expectedValue []
  | c :: after =>
    match c with
    | 'n' => wrong ((word "ull".toList after).map fun rest => (.null, rest))
    | 't' => wrong ((word "rue".toList after).map fun rest => (.bool true, rest))
    | 'f' => wrong ((word "alse".toList after).map fun rest => (.bool false, rest))
    | '-' => wrong (number false after)
    | '"' => wrong ((string after).map fun (s, rest) => (.text s, rest))
    | '[' => wrong (.ok (.sequence, rest))
    | '\x7b' => wrong (.ok (.map, rest))
    | c => if isDigit c then wrong (number true rest) else .upon .expectedValue rest

/-- A string. -/
def text : Reader String := fun rest =>
  match skipBlank rest with
  | [] => .error (.after .endOfValue [])
  | '"' :: rest => string rest
  | rest => .error (refuse .text rest)

/-- A truth value. -/
def boolean : Reader Bool := fun rest =>
  match skipBlank rest with
  | [] => .error (.after .endOfValue [])
  | 't' :: rest => (word "rue".toList rest).map fun rest => (true, rest)
  | 'f' :: rest => (word "alse".toList rest).map fun rest => (false, rest)
  | rest => .error (refuse .boolean rest)

/-- A string, or null for none. -/
def text? : Reader (Option String) := fun rest =>
  match skipBlank rest with
  | 'n' :: rest => (word "ull".toList rest).map fun rest => (none, rest)
  | rest => (text rest).map fun (s, rest) => (some s, rest)

/-! ## Lists -/

/-- Whether one more element follows, and the rest before it; `first` tells that none has come
    before.  Where the list ends, its closing bracket is left unread. -/
def more (first : Bool) (rest : List Char) : Except Fault (Bool × List Char) :=
  match skipBlank rest with
  | [] => .error (.after .endOfList [])
  | c :: rest =>
    if c = ']' then .ok (false, c :: rest)
    else if first then .ok (true, c :: rest)
    else if c = ',' then
      match skipBlank rest with
      | [] => .error (.after .endOfValue [])
      | d :: rest => if d = ']' then .error (.upon .trailingComma (d :: rest)) else .ok (true, d :: rest)
    else .error (.upon .expectedListEnd (c :: rest))

/-- The next element of a list, if one more follows. -/
def element? {α : Type} (read : Reader α) (first : Bool) : Reader (Option α) := fun rest => do
  match ← more first rest with
  | (false, rest) => return (none, rest)
  | (true, rest) =>
    let (a, rest) ← read rest
    return (some a, rest)

/-- The rest after the bracket that must close a list here. -/
def closeList (rest : List Char) : Except Fault (List Char) :=
  match skipBlank rest with
  | [] => .error (.after .endOfList [])
  | c :: rest =>
    if c = ']' then .ok rest
    else if c = ',' then
      let rest := skipBlank rest
      if rest.head? = some ']' then .error (.upon .trailingComma rest)
      else .error (.upon .trailingCharacters rest)
    else .error (.upon .trailingCharacters (c :: rest))

/-- Where a fault in the list that ends here lies: after its bracket if this comes next, and else
    after a comma. -/
def afterList (rest : List Char) : List Char :=
  match skipBlank rest with
  | ']' :: rest => rest
  | ',' :: rest => skipBlank rest
  | rest => rest

/-- The elements of a list, after its bracket; `fuel` bounds their number. -/
def elementsFrom {α : Type} (read : Reader α) : (fuel : Nat) → (first : Bool) → Reader (List α)
  | 0, _, rest => .error (.after .endOfList rest)
  | fuel + 1, first, rest => do
    match ← element? read first rest with
    | (none, rest) => return ([], ← closeList rest)
    | (some a, rest) =>
      let (as, rest) ← elementsFrom read fuel false rest
      return (a :: as, rest)

/-- The list of all elements. -/
def list {α : Type} (read : Reader α) : Reader (List α) := fun rest =>
  match skipBlank rest with
  | [] => .error (.after .endOfValue [])
  | '[' :: rest => elementsFrom read (rest.length + 1) true rest
  | rest => .error (refuse .sequence rest)

/-! ## Objects -/

/-- How a record is read from the members of an object. -/
structure Record (σ : Type) where
  /-- What the member with this name does to the record so far; none for an unknown name.  A known
      name is refused at once when it has come before, and its value is read otherwise. -/
  field? : (name : String) → Option (σ → Except Reason (Reader σ))

/-- Where a fault in the object that ends here lies: after its brace if this comes next. -/
def afterObject (rest : List Char) : List Char :=
  match skipBlank rest with
  | '\x7d' :: rest => rest
  | rest => rest

/-- The rest after the colon behind the name of a member. -/
def colon (rest : List Char) : Except Fault (List Char) :=
  match skipBlank rest with
  | [] => .error (.after .endOfObject [])
  | c :: rest => if c = ':' then .ok rest else .error (.upon .expectedColon (c :: rest))

/-- The name of the next member, or none at the closing brace, which is passed. -/
def name? (first : Bool) : Reader (Option String) := fun rest =>
  let name (rest : List Char) : Except Fault (Option String × List Char) :=
    match rest with
    | [] => .error (.after .endOfValue [])
    | c :: rest =>
      if c = '"' then (string rest).map fun (s, rest) => (some s, rest)
      else .error (.upon .nameNotText (c :: rest))
  match skipBlank rest with
  | [] => .error (.after .endOfObject [])
  | c :: rest =>
    if c = '\x7d' then .ok (none, rest)
    else if first then name (c :: rest)
    else if c = ',' then
      let rest := skipBlank rest
      if rest.head? = some '\x7d' then .error (.upon .trailingComma rest) else name rest
    else .error (.upon .expectedObjectEnd (c :: rest))

/-- The record read from the members of an object, after its opening brace; `fuel` bounds their
    number. -/
def membersFrom {σ : Type} (record : Record σ) : (fuel : Nat) → (first : Bool) → σ → Reader σ
  | 0, _, _, rest => .error (.after .endOfObject rest)
  | fuel + 1, first, s, rest => do
    match ← name? first rest with
    | (none, rest) => return (s, rest)
    | (some name, rest) =>
      match record.field? name with
      | none =>
        let rest ← skipValue (← colon rest)
        membersFrom record fuel false s rest
      | some field =>
        match field s with
        | .error reason => throw (.after reason (afterObject rest))
        | .ok read =>
          let (s, rest) ← read (← colon rest)
          membersFrom record fuel false s rest

/-- The record read from all members of an object, after its opening brace. -/
def members {σ : Type} (record : Record σ) (s : σ) : Reader σ := fun rest =>
  membersFrom record (rest.length + 1) true s rest

/-- A field that may come once: `get?` looks whether it has come, `set` puts its value in. -/
def field {σ α : Type} (name : String) (get? : σ → Option α) (set : σ → α → σ) (read : Reader α) :
    σ → Except Reason (Reader σ) := fun s =>
  match get? s with
  | some _ => .error (.duplicateField name)
  | none => .ok fun rest => (read rest).map fun (a, rest) => (set s a, rest)

end TodoSite.Json.Reader
