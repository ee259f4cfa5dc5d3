/-
  Paths of nodes.

  A path is the root, or the child of a path under a name.  It is written as a slash followed by the
  names from the root on, with slashes between them; slashes at the end do not matter.  No name is
  empty, `.` or `..`, and none holds a slash.

  CRUX.  One address falls out of this: a run of two or more slashes and nothing else.  It is not
  the root; it leads to a node of its own, the *nameless* child of the root, which is written as the
  empty text.  The empty text is no address, so that node is reached by slashes only.
-/
import TodoSite.Text.Blank
import TodoSite.Text.Pieces

namespace TodoSite

/-- The path of a node. -/
inductive Path where
  /-- The root of the tree. -/
  | root
  /-- The child of a node under a name. -/
  | child (parent : Path) (name : String)
  deriving DecidableEq, Repr, Inhabited

namespace Path

/-- The node that a run of slashes leads to. -/
def nameless : Path := child root ""

/-! ## Reading -/

/-- Whether a part of an address may be a name. -/
def isName (part : String) : Bool :=
  part ≠ "" && part ≠ "." && part ≠ ".."

/-- The path that goes down from `p` through `names`. -/
def descend (p : Path) (names : List String) : Path :=
  names.foldl child p

/-- The path that an address stands for, or none where it is no address. -/
def ofString? (address : String) : Option Path :=
  if address = "/" then some root
  else
    match address.toList with
    | '/' :: rest =>
      match Text.dropEndWhile (· == '/') ('/' :: rest) with
      | [] => some nameless
      | _ :: kept =>
        let names := (Text.pieces '/' kept).map String.ofList
        if names.all isName then some (root.descend names) else none
    | _ => none

/-! ## Writing -/

/-- The names of a path, each with a slash before it. -/
def tail : Path → String
  | root => ""
  | child parent name => parent.tail ++ "/" ++ name

/-- A path as it is written. -/
def render (p : Path) : String :=
  if p = root then "/" else if p = nameless then "" else p.tail

/-- The path whose written form is that of `p`, a slash, and `name`: the child of `p`, but for two
    cases.  Under the root the empty name leads back to the root, and the nameless node is written
    like nothing, so that its children are those of the root. -/
def entry (p : Path) (name : String) : Path :=
  if p = nameless then child root name
  else if p = root ∧ name = "" then root
  else child p name

/-- The last name of a path. -/
def lastName : Path → String
  | root => ""
  | child _ name => name

end Path

end TodoSite
