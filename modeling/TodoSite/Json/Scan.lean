/-
  Reading the words and strings of JSON.

  A reader takes the unread text and either fails or gives what it has read and the rest.  Three
  small ones are here: `skipBlank` passes white space, `word` reads the letters of null, true and
  false after their first, and `string` reads a string after its quotation mark.

  CRUX.  Characters above U+FFFF may be written as two escapes, the halves of a pair of surrogates.
  The first half must be followed at once by an escape with the second; each way of failing has its
  own reason, and counts the bytes that had to be looked at to notice it.
-/
import TodoSite.Json.Fault

namespace TodoSite.Json

/-- A reader of values of type `α`. -/
abbrev Reader (α : Type) := List Char → Except Fault (α × List Char)

namespace Reader

/-- JSON's white space, which is narrower than that of typed text. -/
def isSpace (c : Char) : Bool :=
  c = ' ' || c = '\n' || c = '\t' || c = '\r'

/-- `rest` without the white space at its beginning. -/
def skipBlank (rest : List Char) : List Char :=
  rest.dropWhile isSpace

/-- The rest after `letters`, which must come next.  A wrong letter counts as read. -/
def word : (letters rest : List Char) → Except Fault (List Char)
  | [], rest => .ok rest
  | _ :: _, [] => .error (.after .endOfValue [])
  | l :: letters, c :: rest =>
    if c = l then word letters rest else .error (.upon .expectedWord (c :: rest))

/-! ## Escapes -/

/-- The value of a hexadecimal digit. -/
def hexValue? (c : Char) : Option Nat :=
  if '0' ≤ c ∧ c ≤ '9' then some (c.toNat - 0x30)
  else if 'a' ≤ c ∧ c ≤ 'f' then some (c.toNat - 0x57)
  else if 'A' ≤ c ∧ c ≤ 'F' then some (c.toNat - 0x37)
  else none

/-- The value of four hexadecimal digits. -/
def hexUnit? (a b c d : Char) : Option Nat := do
  return ((← hexValue? a) * 16 + (← hexValue? b)) * 256 + (← hexValue? c) * 16 + (← hexValue? d)

/-- The number written by the four digits of an escape.  Four bytes are looked at, whether they are
    digits or not; where there are not that many, all are. -/
def hexUnit (rest : List Char) : Except Fault (Nat × List Char) :=
  let refused : Except Fault (Nat × List Char) :=
    if byteCount rest < 4 then .error (.after .endOfText [])
    else .error ⟨.invalidEscape, byteCount rest - 4⟩
  match rest with
  | a :: b :: c :: d :: rest =>
    match hexUnit? a b c d with
    | some n => .ok (n, rest)
    | none => refused
  | _ => refused

/-- Whether `n` is the first half of a pair of surrogates. -/
def isHighSurrogate (n : Nat) : Bool := 0xD800 ≤ n && n ≤ 0xDBFF

/-- Whether `n` is the second half of a pair of surrogates. -/
def isLowSurrogate (n : Nat) : Bool := 0xDC00 ≤ n && n ≤ 0xDFFF

/-- The character whose first half is `high`; its second half must be the next escape. -/
def surrogatePair (high : Nat) : Reader Char
  | [] => .error (.after .endOfText [])
  | '\\' :: [] => .error (.after .endOfText [])
  | '\\' :: 'u' :: rest => do
    let (low, rest) ← hexUnit rest
    if isLowSurrogate low then
      return (Char.ofNat (0x10000 + (high - 0xD800) * 0x400 + (low - 0xDC00)), rest)
    else throw (.after .loneSurrogate rest)
  | '\\' :: rest => .error (.upon .unfinishedSurrogate rest)
  | rest => .error (.upon .unfinishedSurrogate rest)

/-- The character written by an escape, after its backslash. -/
def escape : Reader Char
  | [] => .error (.after .endOfText [])
  | 'u' :: rest => do
    let (n, rest) ← hexUnit rest
    if isLowSurrogate n then throw (.after .loneSurrogate rest)
    else if isHighSurrogate n then surrogatePair n rest
    else return (Char.ofNat n, rest)
  | c :: rest =>
    match c with
    | '"' => .ok ('"', rest)
    | '\\' => .ok ('\\', rest)
    | '/' => .ok ('/', rest)
    | 'b' => .ok ('\x08', rest)
    | 'f' => .ok ('\x0c', rest)
    | 'n' => .ok ('\n', rest)
    | 'r' => .ok ('\r', rest)
    | 't' => .ok ('\t', rest)
    | _ => .error (.upon .invalidEscape (c :: rest))

/-! ## Strings -/

/-- The rest of a string whose characters so far are `read`, the last one first; `fuel` bounds the
    number of characters. -/
def stringFrom : (fuel : Nat) → (read : List Char) → Reader String
  | 0, _, _ => .error (.after .endOfText [])
  | _ + 1, _, [] => .error (.after .endOfText [])
  | fuel + 1, read, c :: rest =>
    if c = '"' then .ok (String.ofList read.reverse, rest)
    else if c = '\\' then do
      let (e, rest) ← escape rest
      stringFrom fuel (e :: read) rest
    else if c.toNat < 0x20 then .error (.after .controlCharacter rest)
    else stringFrom fuel (c :: read) rest

/-- A string after its first quotation mark.  Every character of it takes up at least one of the
    text, so the length of the text is fuel enough. -/
def string : Reader String :=
  fun rest => stringFrom rest.length [] rest

end Reader

end TodoSite.Json
