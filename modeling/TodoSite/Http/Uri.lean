/-
  The target of a request.

  A target is one of four: the asterisk; a path, which begins with a slash, with a query after `?`;
  an absolute address, `scheme://authority` with a path and a query; or an authority alone.  Of all
  this only the path decides what is asked for, so `path?` reads a target and gives its path:

  * an asterisk is its own path;
  * an absolute address without a path has the path `/`;
  * an authority alone has the empty path;
  * what follows a `#` is dropped, whatever it holds, and nothing is decoded.

  A target of no such form is refused.
-/
import TodoSite.Text.Utf8

namespace TodoSite.Uri

/-- The greatest number of bytes in a target. -/
def maxBytes : Nat := 65534

/-- Whether `c` is an ASCII letter or digit. -/
def isAlphanumeric (c : Char) : Bool :=
  ('a' ≤ c && c ≤ 'z') || ('A' ≤ c && c ≤ 'Z') || ('0' ≤ c && c ≤ '9')

/-- Whether the code point of `c` lies between two others. -/
def between (low high : Nat) (c : Char) : Bool :=
  low ≤ c.toNat && c.toNat ≤ high

/-! ## Paths and queries -/

/-- Whether `c` may stand in a path. -/
def isPathChar (c : Char) : Bool :=
  c = '!' || c = '"' || between 0x24 0x3B c || c = '=' || between 0x40 0x5F c || between 0x61 0x7E c
    || 0x80 ≤ c.toNat

/-- Whether `c` may stand in a query. -/
def isQueryChar (c : Char) : Bool :=
  c = '!' || between 0x24 0x3B c || c = '=' || between 0x3F 0x7E c || 0x80 ≤ c.toNat

/-- Whether `c` ends a path. -/
def endsPath (c : Char) : Bool := c = '?' || c = '#'

/-- Whether what follows a path is a query that holds nothing but query characters, or no query. -/
def isQueryEnd : List Char → Bool
  | '?' :: query => (query.takeWhile (· ≠ '#')).all isQueryChar
  | _ => true

/-- The path at the beginning of `cs`, when all of `cs` is a path and a query; where there is none it
    is a slash. -/
def pathAndQuery? (cs : List Char) : Option String :=
  let path := cs.takeWhile (!endsPath ·)
  if path.all isPathChar && isQueryEnd (cs.dropWhile (!endsPath ·)) then
    some (if path.isEmpty then "/" else String.ofList path)
  else none

/-! ## Authorities -/

/-- What has been seen of an authority. -/
structure Authority where
  /-- Colons since the last `@` or closing bracket. -/
  colons : Nat := 0
  /-- Whether a bracket has been opened. -/
  opened : Bool := false
  /-- Whether it has been closed. -/
  closed : Bool := false
  /-- Whether there was a `%` since the last `@` or closing bracket. -/
  percent : Bool := false
  /-- Whether the last character was an `@`. -/
  atSign : Bool := false

namespace Authority

/-- How many colons there may be together. -/
def maxColons : Nat := 8

/-- One more character of an authority, if it may stand there. -/
def step? (a : Authority) (c : Char) : Option Authority :=
  let a := { a with atSign := c = '@' }
  if c = ':' then if a.colons < maxColons then some { a with colons := a.colons + 1 } else none
  else if c = '[' then if a.percent || a.opened then none else some { a with opened := true }
  else if c = ']' then
    if a.opened && !a.closed then some { a with closed := true, colons := 0, percent := false } else none
  else if c = '@' then some { a with colons := 0, percent := false }
  else if c = '%' then some { a with percent := true }
  else if isAlphanumeric c || c ∈ "!$&'()*+,-.;=_~".toList then some a
  else none

/-- Whether an authority may end here. -/
def isComplete (a : Authority) : Bool :=
  a.opened == a.closed && a.colons ≤ 1 && !a.percent && !a.atSign

/-- Whether `cs` is an authority. -/
def accepts (cs : List Char) : Bool :=
  match cs.foldlM step? ({} : Authority) with
  | none => false
  | some a => a.isComplete

end Authority

/-! ## Targets -/

/-- How many characters there may be in a scheme. -/
def maxScheme : Nat := 64

/-- Whether `c` may stand in a scheme. -/
def isSchemeChar (c : Char) : Bool :=
  isAlphanumeric c || c = '+' || c = '-' || c = '.' || c = '~'

/-- What follows `scheme://`, with the length of the scheme, or none where there is no scheme. -/
def afterScheme? (cs : List Char) : Option (Nat × List Char) :=
  let scheme := cs.takeWhile isSchemeChar
  match cs.dropWhile isSchemeChar with
  | ':' :: '/' :: '/' :: rest => some (scheme.length, rest)
  | _ => none

/-- Whether `c` ends an authority. -/
def endsAuthority (c : Char) : Bool := c = '/' || endsPath c

/-- The path of a target, or none where it is refused. -/
def path? (target : String) : Option String :=
  let cs := target.toList
  if cs.isEmpty || maxBytes < target.utf8ByteSize then none
  else if target = "*" then some "*"
  else if cs.head? = some '/' then pathAndQuery? cs
  else
    match afterScheme? cs with
    | none => if Authority.accepts cs then some "" else none
    | some (length, rest) =>
      let authority := rest.takeWhile (!endsAuthority ·)
      if length ≤ maxScheme && !authority.isEmpty && Authority.accepts authority then
        pathAndQuery? (rest.dropWhile (!endsAuthority ·))
      else none

end TodoSite.Uri
