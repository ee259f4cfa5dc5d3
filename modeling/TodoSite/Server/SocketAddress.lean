/-
  Socket addresses.

  A socket address is an internet address and a port: `127.0.0.1:3000`, or with brackets around the
  longer kind of address, `[2001:db8::1]:443`, where `%` and a number may name a scope.

  An address of eight groups is written with its longest run of two or more zero groups (the first
  of the longest) as `::`; one that stands for an address of four numbers shows those numbers.
-/
namespace TodoSite.Server

/-- A socket address. -/
inductive SocketAddress where
  /-- Four numbers below 256, and a port. -/
  | v4 (numbers : List Nat) (port : Nat)
  /-- Eight groups of 16 bits, the scope (zero for none), and a port. -/
  | v6 (groups : List Nat) (scope : Nat) (port : Nat)
  deriving DecidableEq, Repr

namespace SocketAddress

/-! ## Reading -/

/-- The value of a digit to the base of at most sixteen. -/
def digit? (base : Nat) (c : Char) : Option Nat :=
  let value :=
    if '0' ≤ c ∧ c ≤ '9' then c.toNat - 0x30
    else if 'a' ≤ c ∧ c ≤ 'f' then c.toNat - 0x57
    else if 'A' ≤ c ∧ c ≤ 'F' then c.toNat - 0x37
    else base
  if value < base then some value else none

/-- How a number may be written. -/
structure NumberForm where
  /-- The base. -/
  base : Nat
  /-- The greatest number of digits, if there is one. -/
  digits : Option Nat
  /-- Whether zeros may stand before the number. -/
  zeros : Bool
  /-- The greatest number. -/
  greatest : Nat

/-- One of the four numbers. -/
def NumberForm.byte : NumberForm := ⟨10, some 3, false, 255⟩
/-- One of the eight groups. -/
def NumberForm.group : NumberForm := ⟨16, some 4, true, 0xFFFF⟩
/-- A port. -/
def NumberForm.port : NumberForm := ⟨10, none, true, 0xFFFF⟩
/-- A scope. -/
def NumberForm.scope : NumberForm := ⟨10, none, true, 0xFFFFFFFF⟩

/-- The number at the beginning of `cs`, and what follows it.  All digits there belong to it. -/
def number? (form : NumberForm) (cs : List Char) : Option (Nat × List Char) :=
  let isDigit (c : Char) := (digit? form.base c).isSome
  let ds := cs.takeWhile isDigit
  let value := ds.foldl (fun n c => n * form.base + (digit? form.base c).getD 0) 0
  if ds.isEmpty || form.digits.any (· < ds.length) || form.greatest < value then none
  else if !form.zeros && ds.head? = some '0' && 1 < ds.length then none
  else some (value, cs.dropWhile isDigit)

/-- What follows `c`, which must come next. -/
def expect? (c : Char) : List Char → Option (List Char)
  | [] => none
  | d :: cs => if d = c then some cs else none

/-- Four numbers with points between them. -/
def four? (cs : List Char) : Option (List Nat × List Char) := do
  let (a, cs) ← number? .byte cs
  let (b, cs) ← number? .byte (← expect? '.' cs)
  let (c, cs) ← number? .byte (← expect? '.' cs)
  let (d, cs) ← number? .byte (← expect? '.' cs)
  return ([a, b, c, d], cs)

/-- At most `left` groups with colons between them, and what follows; `first` tells that no group
    has come before.  The last two may be written as four numbers, which the flag tells. -/
def groups : (left : Nat) → (first : Bool) → (cs : List Char) → List Nat × Bool × List Char
  | 0, _, cs => ([], false, cs)
  | left + 1, first, cs =>
    let next? := if first then some cs else expect? ':' cs
    match if left = 0 then none else next?.bind four? with
    | some ([a, b, c, d], rest) => ([a * 256 + b, c * 256 + d], true, rest)
    | _ =>
      match next?.bind (number? .group) with
      | none => ([], false, cs)
      | some (g, rest) =>
        let (gs, four, rest) := groups left false rest
        (g :: gs, four, rest)

/-- Eight groups, of which one run of zeros may be left out. -/
def eight? (cs : List Char) : Option (List Nat × List Char) := do
  let (head, four, cs) := groups 8 true cs
  if head.length = 8 then return (head, cs)
  else if four then none
  else
    let cs ← expect? ':' (← expect? ':' cs)
    let (last, _, cs) := groups (7 - head.length) true cs
    return (head ++ List.replicate (8 - head.length - last.length) 0 ++ last, cs)

/-- A port after its colon, at the end. -/
def port? (cs : List Char) : Option Nat := do
  let (port, cs) ← number? .port (← expect? ':' cs)
  if cs.isEmpty then return port else none

/-- The socket address that a text is. -/
def ofString? (text : String) : Option SocketAddress :=
  let cs := text.toList
  let short? : Option SocketAddress := do
    let (numbers, cs) ← four? cs
    return .v4 numbers (← port? cs)
  let long? : Option SocketAddress := do
    let (gs, cs) ← eight? (← expect? '[' cs)
    let (scope, cs) := ((expect? '%' cs).bind (number? .scope)).getD (0, cs)
    return .v6 gs scope (← port? (← expect? ']' cs))
  short?.or long?

/-! ## Writing -/

/-- `parts` with `separator` between them. -/
def separated (separator : String) : List String → String
  | [] => ""
  | [part] => part
  | part :: parts => part ++ separator ++ separated separator parts

/-- Groups with colons between them. -/
def groupsText (gs : List Nat) : String :=
  separated ":" (gs.map fun g => String.ofList (Nat.toDigits 16 g))

/-- Four numbers with points between them. -/
def numbersText (numbers : List Nat) : String :=
  separated "." (numbers.map Nat.repr)

/-- How many zero groups come first. -/
def zeroRun (gs : List Nat) : Nat :=
  (gs.takeWhile (· = 0)).length

/-- Where the longest run of zero groups begins and how long it is; the first of the longest. -/
def longestRun (gs : List Nat) : Nat × Nat :=
  (List.range gs.length).foldl
    (fun best i => if best.2 < zeroRun (gs.drop i) then (i, zeroRun (gs.drop i)) else best) (0, 0)

/-- An address of eight groups as it is written. -/
def eightText (gs : List Nat) : String :=
  match gs with
  | [0, 0, 0, 0, 0, 0xFFFF, g, h] => "::ffff:" ++ numbersText [g / 256, g % 256, h / 256, h % 256]
  | gs =>
    let (start, length) := longestRun gs
    if 1 < length then groupsText (gs.take start) ++ "::" ++ groupsText (gs.drop (start + length))
    else groupsText gs

/-- A socket address as it is written. -/
def render : SocketAddress → String
  | v4 numbers port => numbersText numbers ++ ":" ++ Nat.repr port
  | v6 gs scope port =>
    let zone := if scope = 0 then "" else "%" ++ Nat.repr scope
    "[" ++ eightText gs ++ zone ++ "]:" ++ Nat.repr port

end SocketAddress

end TodoSite.Server
