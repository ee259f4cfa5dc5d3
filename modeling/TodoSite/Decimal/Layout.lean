/-
  How a fraction is written in a message.

  A fraction is written with the fewest digits that read back, always with a point: `100.0`,
  `0.1`.  Below 10^-5 and from 10^16 on the leading digit stands alone and a power of ten follows
  with its sign: `1.5e+29`.
-/
import TodoSite.Decimal.Shortest

namespace TodoSite.Decimal

/-- Which powers of ten of the leading digit are written without an exponent. -/
structure Layout where
  /-- The least such power. -/
  least : Int
  /-- The greatest such power. -/
  greatest : Int

/-- Fractions in messages are written out from 10^-5 to below 10^16. -/
def Layout.message : Layout := ⟨-5, 15⟩

/-- `d` in the layout `layout`. -/
def Digits.text (layout : Layout) (d : Digits) : String :=
  let ds := Nat.toDigits 10 d.digits
  let lead := d.exponent + ds.length - 1
  let zeros (n : Int) : List Char := List.replicate n.toNat '0'
  if layout.least ≤ lead ∧ lead ≤ layout.greatest then
    if 0 ≤ d.exponent then String.ofList (ds ++ zeros d.exponent ++ ".0".toList)
    else if 0 ≤ lead then
      let whole := (lead + 1).toNat
      String.ofList (ds.take whole ++ '.' :: ds.drop whole)
    else String.ofList ("0.".toList ++ zeros (-lead - 1) ++ ds)
  else
    let tail := if ds.length ≤ 1 then [] else '.' :: ds.drop 1
    let sign := if lead < 0 then '-' else '+'
    String.ofList (ds.take 1 ++ tail ++ ['e', sign] ++ Nat.toDigits 10 lead.natAbs)

/-- The finite double with these bits, as a message shows it. -/
def fractionText (bits : UInt64) : String :=
  let sign := if 0x8000000000000000 ≤ bits.toNat then "-" else ""
  match Binary.ofBits? bits with
  | none => sign ++ "0.0"
  | some b => sign ++ b.shortest.text Layout.message

end TodoSite.Decimal
