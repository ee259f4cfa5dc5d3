/-
  Cutting text at a separator, and replacing one text by another.

  * `pieces sep cs`: the parts of `cs` between the occurrences of `sep`; always at least one.
  * `cutAt sep cs`: `cs` before and after the first `sep`.
  * `replaceAll needle insert text`: every occurrence of `needle`, found from the left and not
    overlapping, gives way to `insert`; the inserted text is not searched again.

  All are recursions on the list itself: `replaceAll` counts down the characters of an
  occurrence that it has already passed instead of jumping over them.
-/
namespace TodoSite.Text

/-- The parts of a list between the occurrences of `sep`, empty parts included. -/
def pieces {α : Type} [DecidableEq α] (sep : α) : List α → List (List α)
  | [] => [[]]
  | c :: cs =>
    if c = sep then [] :: pieces sep cs
    else
      match pieces sep cs with
      | [] => [[c]]
      | p :: ps => (c :: p) :: ps

/-- What stands before and after the first `sep`, or none where there is no `sep`. -/
def cutAt {α : Type} [DecidableEq α] (sep : α) : List α → Option (List α × List α)
  | [] => none
  | c :: cs =>
    if c = sep then some ([], cs)
    else (cutAt sep cs).map fun r => (c :: r.1, r.2)

/-- `cs` without its last part `ending`, or none where it ends otherwise. -/
def dropEnd? (ending cs : List Char) : Option (List Char) :=
  if ending.isSuffixOf cs then some (cs.take (cs.length - ending.length)) else none

/-- `text` without its last part `ending`, or none where it ends otherwise. -/
def dropEnding? (ending text : String) : Option String :=
  (dropEnd? ending.toList text.toList).map String.ofList

/-- One pass of a replacement; `passed` characters of an occurrence are still to be dropped. -/
def replaceFrom (needle insert : List Char) : Nat → List Char → List Char
  | _, [] => []
  | passed + 1, _ :: cs => replaceFrom needle insert passed cs
  | 0, c :: cs =>
    if needle.isPrefixOf (c :: cs) then
      insert ++ replaceFrom needle insert (needle.length - 1) cs
    else c :: replaceFrom needle insert 0 cs

/-- `text` with `insert` in the place of every occurrence of `needle`, which is not empty. -/
def replaceAll (needle insert text : String) : String :=
  String.ofList (replaceFrom needle.toList insert.toList 0 text.toList)

end TodoSite.Text
