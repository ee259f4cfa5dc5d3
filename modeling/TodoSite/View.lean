/-
  What is shown of a list: one row for each item, in order, and the button of the input row.
-/
import TodoSite.TodoList

namespace TodoSite

/-- One row: an item as it is shown. -/
structure Row where
  /-- The key of the item. -/
  key : String
  /-- The name of the item. -/
  name : String
  /-- Whether the item is done; its name is then struck through. -/
  done : Bool
  /-- The text of the link that turns the flag. -/
  label : String
  /-- Where that link points. -/
  target : String
  deriving DecidableEq, Repr

/-- A list as it is shown. -/
structure ListView where
  /-- The rows in order. -/
  rows : List Row
  /-- The text of the button beside the input field. -/
  submitLabel : String := "Add"
  deriving DecidableEq, Repr

/-- The line that stands above every list. -/
def introText : String := "To get started, type in item name and click Add."

/-- An item as it is shown. -/
def Item.row (item : Item) : Row where
  key := item.key
  name := item.name
  done := item.done
  label := if item.done then "Done" else "Not Done"
  target := "#_" ++ item.key

/-- Whether the name of a row is struck through. -/
def Row.struck (row : Row) : Bool := row.done

/-- A list as it is shown. -/
def TodoList.view (list : TodoList) : ListView :=
  { rows := list.items.map Item.row }

end TodoSite
