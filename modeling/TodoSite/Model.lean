/-
  What is exchanged about a list.

  The server exports a list as a *model*: a title and its items in order.  An item has a name, a
  flag that says whether it is done, and a key that tells it from the other items of its list; an
  exported item also carries the path of the node that it was read from.
-/
namespace TodoSite

/-- One thing to do. -/
structure Item where
  /-- What is to be done. -/
  name : String
  /-- Whether it has been done. -/
  done : Bool := false
  /-- What tells the item from the other items of its list. -/
  key : String
  /-- The path of the node that the item was read from, in an export. -/
  path : Option String := none
  deriving DecidableEq, Repr, Inhabited

/-- The title of a list that has been given none. -/
def defaultTitle : String := "Todo List"

/-- A list as it is exchanged: nothing keeps two of its items from having the same key. -/
structure Model where
  /-- The title of the page. -/
  title : String := defaultTitle
  /-- The items in order. -/
  items : List Item := []
  deriving DecidableEq, Repr, Inhabited

/-- The items shown before any real ones are known. -/
def placeholderItems : List Item :=
  [{ name := "Item 1", key := "1" }, { name := "Item 2", key := "2", done := true },
    { name := "Item 3", key := "3" }]

end TodoSite
