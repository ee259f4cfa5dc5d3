/-
  The shortest decimal of a binary fraction.

  A finite double is `m · 2^q`.  Every real number in an interval around it is read back as the
  same double; the ends of the interval belong to it exactly when `m` is even, for a tie goes to
  the even neighbour.  `shortest` looks for a decimal `n · 10^e` in that interval, first among
  those with one digit, then with two, and so on to seventeen, which always suffice.  On each grid
  only the two neighbours of the value can be nearest, so only they are tested; of two hits the
  nearer one is taken, and of two equally near the even one.

  All comparisons are between natural numbers: a quarter of the last binary place is the unit, and
  both sides are multiplied up until neither has a fraction.
-/
namespace TodoSite.Decimal

/-- A positive finite double as `significand · 2^exponent`. -/
structure Binary where
  /-- At most 53 bits, not zero. -/
  significand : Nat
  /-- The power of two. -/
  exponent : Int
  deriving DecidableEq, Repr

/-- The decimal number `digits · 10^exponent`. -/
structure Digits where
  /-- The digits as one number. -/
  digits : Nat
  /-- The power of ten. -/
  exponent : Int
  deriving DecidableEq, Repr

namespace Binary

/-- The bit that the significand of a double has, unless the double is one of the smallest:
    2^52. -/
def hiddenBit : Nat := 0x10000000000000

/-- The magnitude held by the lower 63 bits of a double; none for zero. -/
def ofBits? (bits : UInt64) : Option Binary :=
  let fraction : Nat := bits.toNat % hiddenBit
  let biased : Nat := bits.toNat / hiddenBit % 0x800
  if biased = 0 then
    if fraction = 0 then none else some ⟨fraction, -1074⟩
  else some ⟨hiddenBit + fraction, Int.ofNat biased - 1075⟩

/-- What a decimal with the power of ten `e` is multiplied by, to be compared. -/
def decimalScale (b : Binary) (e : Int) : Nat :=
  Nat.pow 10 e.toNat * Nat.pow 2 (2 - b.exponent).toNat

/-- What a number of quarters of the last binary place is multiplied by, to be compared. -/
def binaryScale (b : Binary) (e : Int) : Nat :=
  Nat.pow 2 (b.exponent - 2).toNat * Nat.pow 10 (-e).toNat

/-- How far below `b` its interval reaches, in quarters of the last place: half a place, but half
    as much where the double below is half as far away as the one above. -/
def below (b : Binary) : Nat :=
  if b.significand = hiddenBit ∧ b.exponent ≠ -1074 then 1 else 2

/-- Whether `n · 10^e` is read back as `b`. -/
def accepts (b : Binary) (n : Nat) (e : Int) : Bool :=
  let x := n * b.decimalScale e
  let low := (4 * b.significand - b.below) * b.binaryScale e
  let high := (4 * b.significand + 2) * b.binaryScale e
  if b.significand % 2 = 0 then low ≤ x && x ≤ high else low < x && x < high

/-- The greatest power of ten that is not above `b`. -/
def leadingPower (b : Binary) : Int :=
  let powers := (List.range 633).map fun (i : Nat) => (308 : Int) - (i : Int)
  (powers.find? fun p => b.decimalScale p ≤ 4 * b.significand * b.binaryScale p).getD (-324)

/-- The number on the grid of the multiples of `10^e` that is read back as `b` and nearest to it. -/
def onGrid? (b : Binary) (e : Int) : Option Nat :=
  let value := 4 * b.significand * b.binaryScale e
  let step := b.decimalScale e
  let n := value / step
  match b.accepts n e, b.accepts (n + 1) e with
  | false, false => none
  | true, false => some n
  | false, true => some (n + 1)
  | true, true =>
    let down := value - n * step
    let up := (n + 1) * step - value
    if down < up then some n
    else if up < down then some (n + 1)
    else some (n + n % 2)

/-- The decimal with the fewest digits that is read back as `b`, and of those the nearest.  A hit
    that ends in a zero would have been a hit one grid earlier, unless it is the number ten just
    above a double that begins with a nine. -/
def shortest (b : Binary) : Digits :=
  let found := (List.range 17).findSome? fun (i : Nat) =>
    let e := b.leadingPower - (i : Int)
    (b.onGrid? e).map fun n => if n = 10 then ⟨1, e + 1⟩ else ⟨n, e⟩
  found.getD ⟨b.significand, b.exponent⟩

end Binary

end TodoSite.Decimal
