/-
  Finite maps from names, kept in the order of the names.

  A `NameMap` is a list of pairs in strictly increasing order of their names; names are ordered by
  code point, which for their UTF-8 bytes is the order of the bytes.  `insert` keeps that order, so
  a map built from the empty one by `insert` has one entry for each name and only one written form.
-/
namespace TodoSite

/-- Pairs of a name and what it stands for, in increasing order of the names. -/
abbrev NameMap (β : Type) := List (String × β)

namespace NameMap

variable {β : Type}

/-- What `name` stands for. -/
def get? (name : String) : NameMap β → Option β
  | [] => none
  | (n, b) :: m => if n = name then some b else get? name m

/-- `m` with `b` for `name`, whatever stood there before. -/
def insert (name : String) (b : β) : NameMap β → NameMap β
  | [] => [(name, b)]
  | (n, c) :: m =>
    if n = name then (name, b) :: m
    else if name < n then (name, b) :: (n, c) :: m
    else (n, c) :: insert name b m

/-- `m` with the pairs `ps` inserted one after another, so that the last of a name stays. -/
def insertAll (m : NameMap β) (ps : List (String × β)) : NameMap β :=
  ps.foldl (fun m p => insert p.1 p.2 m) m

end NameMap

end TodoSite
