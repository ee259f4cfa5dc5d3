/-
  Passing over a value that nobody asks for.

  Members with unknown names are passed over, whatever they hold and however deep it goes.  The
  brackets that are open are kept in a list, so no depth is too great.

  CRUX.  Less is asked of such a value than of one that is read: a number may have any size, and the
  halves of surrogate pairs may stand alone.  The places of some faults differ too: a control
  character in a string counts as unread, and a comma before a closing bracket is noticed as the
  value, or the name, that is missing after it.
-/
import TodoSite.Json.Number

namespace TodoSite.Json.Reader

/-! ## Strings and numbers -/

/-- The rest after a string that is passed over, after its first quotation mark. -/
def skipStringFrom : (fuel : Nat) → (rest : List Char) → Except Fault (List Char)
  | 0, _ => .error (.after .endOfText [])
  | _ + 1, [] => .error (.after .endOfText [])
  | fuel + 1, c :: rest =>
    if c = '"' then .ok rest
    else if c = '\\' then
      match rest with
      | [] => .error (.after .endOfText [])
      | 'u' :: rest => do
        let (_, rest) ← hexUnit rest
        skipStringFrom fuel rest
      | e :: after =>
        if e ∈ ['"', '\\', '/', 'b', 'f', 'n', 'r', 't'] then skipStringFrom fuel after
        else .error (.upon .invalidEscape rest)
    else if c.toNat < 0x20 then .error (.after .controlCharacter (c :: rest))
    else skipStringFrom fuel rest

/-- The rest after a string that is passed over, after its first quotation mark. -/
def skipString (rest : List Char) : Except Fault (List Char) :=
  skipStringFrom rest.length rest

/-- The rest after an exponent, after its letter. -/
def skipExponent (rest : List Char) : Except Fault (List Char) :=
  let digits := match rest with
    | '+' :: rest => rest
    | '-' :: rest => rest
    | rest => rest
  match digits with
  | c :: rest =>
    if isDigit c then .ok (rest.dropWhile isDigit) else .error (.upon .invalidNumber digits)
  | [] => .error (.after .invalidNumber [])

/-- The rest after an exponent, if one comes next. -/
def skipExponent? : List Char → Except Fault (List Char)
  | [] => .ok []
  | c :: rest => if c = 'e' ∨ c = 'E' then skipExponent rest else .ok (c :: rest)

/-- The rest after what may follow the whole part of a number. -/
def skipNumberEnd : List Char → Except Fault (List Char)
  | '.' :: c :: rest =>
    if isDigit c then skipExponent? (rest.dropWhile isDigit)
    else .error (.upon .invalidNumber (c :: rest))
  | '.' :: [] => .error (.after .invalidNumber [])
  | rest => skipExponent? rest

/-- The rest after a number, after its sign. -/
def skipNumber : List Char → Except Fault (List Char)
  | [] => .error (.after .invalidNumber [])
  | c :: rest =>
    if c = '0' then
      match rest with
      | d :: _ => if isDigit d then .error (.upon .invalidNumber rest) else skipNumberEnd rest
      | [] => .ok []
    else if isDigit c then skipNumberEnd (rest.dropWhile isDigit)
    else .error (.upon .invalidNumber (c :: rest))

/-! ## Values -/

/-- A bracket that is open. -/
inductive Open where
  /-- An array. -/
  | list
  /-- An object. -/
  | object
  deriving DecidableEq, Repr

namespace Open

/-- The character that closes the bracket. -/
def closing : Open → Char
  | list => ']'
  | object => '\x7d'

/-- The reason when the text ends inside the bracket. -/
def atEnd : Open → Reason
  | list => .endOfList
  | object => .endOfObject

/-- The reason when neither a comma nor the closing character follows an element. -/
def unseparated : Open → Reason
  | list => .expectedListEnd
  | object => .expectedObjectEnd

end Open

/-- The rest after the name of a member and its colon. -/
def skipName (rest : List Char) : Except Fault (List Char) :=
  match skipBlank rest with
  | [] => .error (.after .endOfObject [])
  | c :: rest =>
    if c = '"' then do
      let rest ← skipString rest
      match skipBlank rest with
      | [] => throw (.after .endOfObject [])
      | c :: rest => if c = ':' then return rest else throw (.upon .expectedColon (c :: rest))
    else .error (.upon .nameNotText (c :: rest))

/-- What passing over a part of a value leaves to do. -/
inductive Skipped where
  /-- A value without brackets has been passed. -/
  | value (rest : List Char)
  /-- A bracket has been opened. -/
  | opened (bracket : Open) (rest : List Char)

/-- Passes over a value without brackets, or over an opening bracket. -/
def skipStart (rest : List Char) : Except Fault Skipped :=
  match skipBlank rest with
  | [] => .error (.after .endOfValue [])
  | c :: rest =>
    match c with
    | 'n' => (word "ull".toList rest).map .value
    | 't' => (word "rue".toList rest).map .value
    | 'f' => (word "alse".toList rest).map .value
    | '-' => (skipNumber rest).map .value
    | '"' => (skipString rest).map .value
    | '[' => .ok (.opened .list rest)
    | '\x7b' => .ok (.opened .object rest)
    | c => if isDigit c then (skipNumber (c :: rest)).map .value else .error (.upon .expectedValue (c :: rest))

mutual

/-- Passes over the value that comes next inside the brackets `outer`, and over all that is left of
    these. -/
def skipInside : (fuel : Nat) → (outer : List Open) → (rest : List Char) → Except Fault (List Char)
  | 0, _, rest => .error (.upon .expectedValue rest)
  | fuel + 1, outer, rest => do
    match ← skipStart rest with
    | .value rest => skipOnward fuel true outer rest
    | .opened bracket rest => skipOnward fuel false (bracket :: outer) rest

/-- Passes over all that is left of the brackets `outer`, after an element (`separated`) or after an
    opening bracket. -/
def skipOnward : (fuel : Nat) → (separated : Bool) → (outer : List Open) → (rest : List Char) →
    Except Fault (List Char)
  | _, _, [], rest => .ok rest
  | 0, _, _ :: _, rest => .error (.upon .expectedValue rest)
  | fuel + 1, separated, bracket :: outer, rest =>
    let element (rest : List Char) : Except Fault (List Char) := do
      let rest ← if bracket = .object then skipName rest else pure rest
      skipInside fuel (bracket :: outer) rest
    match skipBlank rest with
    | [] => .error (.after bracket.atEnd [])
    | c :: rest =>
      if c = bracket.closing then skipOnward fuel true outer rest
      else if separated then
        if c = ',' then element rest else .error (.upon bracket.unseparated (c :: rest))
      else element (c :: rest)

end

/-- The rest after a value that is passed over.  Each step but the last passes a character, and two
    steps belong to one element, so twice the length of the text is fuel enough. -/
def skipValue (rest : List Char) : Except Fault (List Char) :=
  skipInside (2 * rest.length + 2) [] rest

end TodoSite.Json.Reader
