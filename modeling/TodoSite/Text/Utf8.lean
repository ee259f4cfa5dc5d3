/-
  UTF-8: characters as bytes and back.

  * `encode` writes a text as its bytes, one to four for each character.
  * `decodeLossy` reads any bytes.  Where they are no text, each longest run of bytes that could
    still have become a character, or else the one byte that cannot start one, is read as U+FFFD.

  The reader is a machine over bytes.  Between characters it owes nothing (`none`); inside one it
  knows how many bytes are due, the value so far, and the range in which the next byte must lie
  (`Pending`).  The range is narrower than 80–BF after E0, ED, F0 and F4 only: this is what keeps
  overlong forms, surrogates and values above 10FFFF out.
-/
namespace TodoSite.Text

/-- A text of bytes, as it travels in a request or a response. -/
abbrev Bytes := List UInt8

/-! ## Writing -/

/-- The bytes of one character. -/
def encodeChar (c : Char) : Bytes :=
  let n := c.toNat
  if n < 0x80 then [n.toUInt8]
  else if n < 0x800 then [(0xC0 + n / 64).toUInt8, (0x80 + n % 64).toUInt8]
  else if n < 0x10000 then
    [(0xE0 + n / 4096).toUInt8, (0x80 + n / 64 % 64).toUInt8, (0x80 + n % 64).toUInt8]
  else
    [(0xF0 + n / 262144).toUInt8, (0x80 + n / 4096 % 64).toUInt8, (0x80 + n / 64 % 64).toUInt8,
      (0x80 + n % 64).toUInt8]

/-- The bytes of a text. -/
def encode (text : String) : Bytes :=
  text.toList.flatMap encodeChar

/-! ## Reading -/

/-- A character that has been begun. -/
structure Pending where
  /-- How many bytes are due, at least one. -/
  due : Nat
  /-- The value of the bits read so far. -/
  value : Nat
  /-- The least byte that can come next. -/
  low : Nat
  /-- The greatest byte that can come next. -/
  high : Nat
  deriving DecidableEq, Repr

/-- What stands for bytes that are no text. -/
def replacement : Char := '\ufffd'

/-- The first byte `b` of a character: what it writes at once, and what it begins. -/
def Pending.begin (b : Nat) : List Char × Option Pending :=
  if b < 0x80 then ([Char.ofNat b], none)
  else if b < 0xC2 then ([replacement], none)
  else if b < 0xE0 then ([], some ⟨1, b - 0xC0, 0x80, 0xBF⟩)
  else if b = 0xE0 then ([], some ⟨2, 0, 0xA0, 0xBF⟩)
  else if b = 0xED then ([], some ⟨2, 0xD, 0x80, 0x9F⟩)
  else if b < 0xF0 then ([], some ⟨2, b - 0xE0, 0x80, 0xBF⟩)
  else if b = 0xF0 then ([], some ⟨3, 0, 0x90, 0xBF⟩)
  else if b < 0xF4 then ([], some ⟨3, b - 0xF0, 0x80, 0xBF⟩)
  else if b = 0xF4 then ([], some ⟨3, 4, 0x80, 0x8F⟩)
  else ([replacement], none)

/-- One byte: the characters it completes, and the state after it.  A byte that does not go on
    with the character that was begun ends it, and then counts as a first byte itself. -/
def Pending.step : Option Pending → Nat → List Char × Option Pending
  | none, b => begin b
  | some p, b =>
    if p.low ≤ b ∧ b ≤ p.high then
      let value := p.value * 64 + (b - 0x80)
      if p.due ≤ 1 then ([Char.ofNat value], none)
      else ([], some ⟨p.due - 1, value, 0x80, 0xBF⟩)
    else
      let next := begin b
      (replacement :: next.1, next.2)

/-- The characters of `bytes`, read from the state `p`. -/
def decodeFrom : Option Pending → Bytes → List Char
  | none, [] => []
  | some _, [] => [replacement]
  | p, b :: bytes =>
    let next := Pending.step p b.toNat
    next.1 ++ decodeFrom next.2 bytes

/-- The text of any bytes; what is no text in them is read as U+FFFD. -/
def decodeLossy (bytes : Bytes) : String :=
  String.ofList (decodeFrom none bytes)

end TodoSite.Text
