/-
  Reading the numbers of JSON.

  A number is read only to say what stands in the place of something else, so all that is asked is
  how a message shows it: as a whole number where it has neither point nor exponent and fits 64
  bits, and otherwise as the nearest double.

  CRUX.  The digits are gathered in a number of at most 64 bits.  When the next digit would not fit,
  the digits that follow are left out, and before the point each of them counts as a power of ten.
  The double is then the gathered number, rounded, times or divided by a power of ten, rounded
  again; so the message shows what two roundings give, not one.
-/
import TodoSite.Json.Scan

namespace TodoSite.Json.Reader

/-- Whether `c` is a decimal digit. -/
def isDigit (c : Char) : Bool := '0' ≤ c && c ≤ '9'

/-- The value of a decimal digit. -/
def digitValue (c : Char) : Nat := c.toNat - 0x30

/-- The greatest number that the digits are gathered in. -/
def gatherLimit : Nat := 0xFFFFFFFFFFFFFFFF

/-- The digits at the beginning of `rest`, gathered after `n`: the number, how many digits went into
    it, and the rest, which begins with a digit where the next one did not fit below `limit`. -/
def gather (limit : Nat) : (n count : Nat) → (rest : List Char) → Nat × Nat × List Char
  | n, count, [] => (n, count, [])
  | n, count, c :: rest =>
    if isDigit c && n * 10 + digitValue c ≤ limit then
      gather limit (n * 10 + digitValue c) (count + 1) rest
    else (n, count, c :: rest)

/-! ## From digits to a double -/

/-- The power of ten with the exponent `n`, as a double. -/
def powerOfTen (n : Nat) : Float := Float.ofScientific 1 false n

/-- A number of at most 64 bits as the double nearest to it. -/
def nearest (n : Nat) : Float := n.toUInt64.toFloat

/-- `f` times ten to the power `e`, or none beyond the greatest double.  The table of powers ends at
    308; an exponent further down is taken in steps of 308, of which three bring every number of 64
    bits to zero. -/
def scaleFloat (f : Float) : (steps : Nat) → (e : Int) → Option Float
  | 0, _ => some f
  | steps + 1, e =>
    if e.natAbs ≤ 308 then
      if 0 ≤ e then
        let product := f * powerOfTen e.natAbs
        if product.isInf then none else some product
      else some (f / powerOfTen e.natAbs)
    else if f == 0.0 then some f
    else if 0 ≤ e then none
    else scaleFloat (f / powerOfTen 308) steps (e + 308)

/-- The fraction `±n · 10^e`, read up to `rest`. -/
def fraction (positive : Bool) (n : Nat) (e : Int) (rest : List Char) :
    Except Fault (Found × List Char) :=
  match scaleFloat (nearest n) 4 e with
  | none => .error (.after .numberOutOfRange rest)
  | some f => .ok (.fraction (if positive then f else -f).toBits, rest)

/-! ## The grammar of numbers -/

/-- The exponent of a number, after its letter; `e` is the power of ten found so far. -/
def exponent (positive : Bool) (n : Nat) (e : Int) : Reader Found := fun rest =>
  let (upward, rest) := match rest with
    | '+' :: rest => (true, rest)
    | '-' :: rest => (false, rest)
    | rest => (true, rest)
  match rest with
  | [] => .error (.after .endOfValue [])
  | c :: rest' =>
    if isDigit c then
      match gather 0x7FFFFFFF (digitValue c) 0 rest' with
      | (x, _, d :: rest) =>
        if isDigit d then
          if n ≠ 0 ∧ upward then .error (.after .numberOutOfRange rest)
          else fraction positive 0 0 (rest.dropWhile isDigit)
        else fraction positive n (if upward then e + x else e - x) (d :: rest)
      | (x, _, []) => fraction positive n (if upward then e + x else e - x) []
    else .error (.upon .invalidNumber rest)

/-- The end of a fraction whose digits have been read: an exponent may follow. -/
def fractionEnd (positive : Bool) (n : Nat) (e : Int) : Reader Found
  | [] => fraction positive n e []
  | c :: rest => if c = 'e' ∨ c = 'E' then exponent positive n e rest else fraction positive n e (c :: rest)

/-- The digits after the point; `e` is the power of ten found so far. -/
def decimals (positive : Bool) (n : Nat) (e : Int) : Reader Found := fun rest =>
  match gather gatherLimit n 0 rest with
  | (_, 0, []) => .error (.after .endOfValue [])
  | (n, count, []) => fraction positive n (e - count) []
  | (n, count, d :: rest) =>
    if isDigit d then fractionEnd positive n (e - count) (rest.dropWhile isDigit)
    else if count = 0 then .error (.upon .invalidNumber (d :: rest))
    else fractionEnd positive n (e - count) (d :: rest)

/-- A whole number with its sign. -/
def whole (positive : Bool) (n : Nat) : Found :=
  if positive then .integer n
  else if 0 < n ∧ n ≤ 0x8000000000000000 then .integer (-n)
  else .fraction (-(nearest n)).toBits

/-- What follows the digits before the point, all of which fitted. -/
def numberEnd (positive : Bool) (n : Nat) : Reader Found
  | [] => .ok (whole positive n, [])
  | c :: rest =>
    if c = '.' then decimals positive n 0 rest
    else if c = 'e' ∨ c = 'E' then exponent positive n 0 rest
    else .ok (whole positive n, c :: rest)

/-- A number, after its sign. -/
def number (positive : Bool) : Reader Found
  | [] => .error (.after .endOfValue [])
  | c :: rest =>
    if c = '0' then
      match rest with
      | d :: _ => if isDigit d then .error (.upon .invalidNumber rest) else numberEnd positive 0 rest
      | [] => numberEnd positive 0 []
    else if isDigit c then
      match gather gatherLimit (digitValue c) 0 rest with
      | (n, _, []) => numberEnd positive n []
      | (n, _, d :: rest) =>
        if isDigit d then
          let rest := d :: rest
          let e := (rest.takeWhile isDigit).length
          match rest.dropWhile isDigit with
          | '.' :: rest => decimals positive n e rest
          | rest => fractionEnd positive n e rest
        else numberEnd positive n (d :: rest)
    else .error (.upon .invalidNumber (c :: rest))

end TodoSite.Json.Reader
