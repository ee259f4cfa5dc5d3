/-
  White space in typed text.

  A text field may hold any Unicode text, and "blank" is a property of Unicode, not of ASCII:
  White_Space has 25 characters in ten ranges.  `isBlank` decides it, `trim` drops blank
  characters at both ends and leaves those inside alone.

  The zero-width space (U+200B) and the byte-order mark (U+FEFF) are not blank.
-/
namespace TodoSite.Text

/-- Whether the code point of `c` lies in one of the closed ranges `rs`. -/
def inRanges (rs : List (Nat × Nat)) (c : Char) : Bool :=
  rs.any fun r => decide (r.1 ≤ c.toNat) && decide (c.toNat ≤ r.2)

/-- The characters with the property White_Space, as closed ranges of code points. -/
def blankRanges : List (Nat × Nat) :=
  [(0x0009, 0x000D), (0x0020, 0x0020), (0x0085, 0x0085), (0x00A0, 0x00A0), (0x1680, 0x1680),
    (0x2000, 0x200A), (0x2028, 0x2029), (0x202F, 0x202F), (0x205F, 0x205F), (0x3000, 0x3000)]

/-- Whether `c` is white space. -/
def isBlank (c : Char) : Bool :=
  inRanges blankRanges c

/-- `cs` without the characters at its end that satisfy `p`. -/
def dropEndWhile (p : Char → Bool) (cs : List Char) : List Char :=
  (cs.reverse.dropWhile p).reverse

/-- `text` without the white space at both of its ends. -/
def trim (text : String) : String :=
  String.ofList (dropEndWhile isBlank (text.toList.dropWhile isBlank))

/-- `text` without the slashes at its end. -/
def dropEndSlashes (text : String) : String :=
  String.ofList (dropEndWhile (· == '/') text.toList)

end TodoSite.Text
