/-
  Form bodies: pairs of texts in one line of ASCII.

  A pair is written as two parts with `=` between them, and the pairs with `&` between them.  In a
  part the bytes of its UTF-8 form are written one by one: letters, digits and `* - . _` as they
  are, a space as `+`, every other byte as `%` and two digits.

  Reading takes any bytes.  Empty pairs are passed over, a pair without `=` has an empty second part,
  a `%` without two digits stands for itself, and bytes that are no text are read as U+FFFD.
-/
import TodoSite.Text.Pieces
import TodoSite.Text.Utf8

namespace TodoSite.Form

open Text (Bytes)

/-! ## Writing -/

/-- Whether a byte is written as it is. -/
def isPlain (b : UInt8) : Bool :=
  (0x30 ≤ b && b ≤ 0x39) || (0x41 ≤ b && b ≤ 0x5A) || (0x61 ≤ b && b ≤ 0x7A)
    || b = 0x2A || b = 0x2D || b = 0x2E || b = 0x5F

/-- The hexadecimal digit for `n`, with capital letters. -/
def hexDigit (n : Nat) : Char :=
  Char.ofNat (if n < 10 then 0x30 + n else 0x37 + n)

/-- One byte of a part. -/
def encodeByte (b : UInt8) : List Char :=
  if isPlain b then [Char.ofNat b.toNat]
  else if b = 0x20 then ['+']
  else ['%', hexDigit (b.toNat / 16), hexDigit (b.toNat % 16)]

/-- One part of a pair. -/
def encodePart (part : String) : List Char :=
  (Text.encode part).flatMap encodeByte

/-- One pair. -/
def encodePair (pair : String × String) : List Char :=
  encodePart pair.1 ++ '=' :: encodePart pair.2

/-- All pairs. -/
def encodePairs : List (String × String) → List Char
  | [] => []
  | [pair] => encodePair pair
  | pair :: pairs => encodePair pair ++ '&' :: encodePairs pairs

/-- The form body that holds `pairs` in this order. -/
def encode (pairs : List (String × String)) : String :=
  String.ofList (encodePairs pairs)

/-! ## Reading -/

/-- The value of a hexadecimal digit of either case. -/
def hexValue? (b : UInt8) : Option Nat :=
  if 0x30 ≤ b ∧ b ≤ 0x39 then some (b.toNat - 0x30)
  else if 0x41 ≤ b ∧ b ≤ 0x46 then some (b.toNat - 0x37)
  else if 0x61 ≤ b ∧ b ≤ 0x66 then some (b.toNat - 0x57)
  else none

/-- The byte that two hexadecimal digits stand for. -/
def hexByte? (high low : UInt8) : Option UInt8 :=
  match hexValue? high, hexValue? low with
  | some h, some l => some (h * 16 + l).toUInt8
  | _, _ => none

/-- `bytes` with every `%` and its two digits as one byte. -/
def percentDecode : Bytes → Bytes
  | [] => []
  | [b] => [b]
  | [b, c] => [b, c]
  | b :: h :: l :: bytes =>
    if b = 0x25 then
      match hexByte? h l with
      | some x => x :: percentDecode bytes
      | none => b :: percentDecode (h :: l :: bytes)
    else b :: percentDecode (h :: l :: bytes)

/-- The text of one part.  A plus sign is a space, unless it was written as `%2B`. -/
def decodePart (bytes : Bytes) : String :=
  Text.decodeLossy (percentDecode (bytes.map fun b => if b = 0x2B then 0x20 else b))

/-- The pair in one piece of a body. -/
def decodePair (piece : Bytes) : String × String :=
  match Text.cutAt 0x3D piece with
  | some (name, value) => (decodePart name, decodePart value)
  | none => (decodePart piece, "")

/-- The pairs of a form body in their order. -/
def decode (body : Bytes) : List (String × String) :=
  ((Text.pieces 0x26 body).filter (· ≠ [])).map decodePair

end TodoSite.Form
