/-
  The list and its transitions.

  A `TodoList` holds items with different keys, in order, and the sequence from which new keys come.
  Everything that happens to it is an `Action`.  What a person asks for (`add`, `toggle`) does not
  touch the items: it yields a `Command`, a write to the repository that carries the whole item.
  Only the answer to that write (`acknowledged`) changes the items; a refusal (`rejected`) leaves
  them alone and yields an alert.

      add, toggle  --write-->  repository  --acknowledged-->  items change
                                           --rejected------>  alert
-/
import TodoSite.KeySequence
import TodoSite.Model
import TodoSite.Text.Blank

namespace TodoSite

/-- A write on its way to the repository, with the whole item as it shall be stored. -/
inductive PendingWrite where
  /-- A new item. -/
  | add (item : Item)
  /-- An item of the list with its flag turned. -/
  | toggle (item : Item)
  deriving DecidableEq, Repr

namespace PendingWrite

/-- The item that is written. -/
def item : PendingWrite → Item
  | .add item => item
  | .toggle item => item

/-- What a person is told when the write is refused. -/
def refusal (reason : String) : PendingWrite → String
  | .add item => "Could not add \"" ++ item.name ++ "\": " ++ reason
  | .toggle item => "Could not update \"" ++ item.name ++ "\": " ++ reason

end PendingWrite

/-- What can happen to a list. -/
inductive Action where
  /-- The text of the input field is submitted as it stands. -/
  | add (raw : String)
  /-- The flag of the item with this key is to be turned. -/
  | toggle (key : String)
  /-- The repository has taken the write. -/
  | acknowledged (write : PendingWrite)
  /-- The repository has refused the write, or could not be reached. -/
  | rejected (write : PendingWrite) (reason : String)
  deriving DecidableEq, Repr

/-- What a transition asks for. -/
inductive Command where
  /-- Write an item to the repository. -/
  | write (write : PendingWrite)
  /-- Tell the person something. -/
  | alert (message : String)
  deriving DecidableEq, Repr

/-- A list of items and the source of its new keys. -/
structure TodoList where
  /-- The items in order; their keys differ. -/
  items : List Item := []
  /-- Where the key of the next new item comes from. -/
  keys : KeySequence := {}
  deriving DecidableEq, Repr, Inhabited

namespace TodoList

/-! ## Building a list -/

/-- The items of `items` whose keys neither stand in `seen` nor come earlier in `items`. -/
def firstOfEachKey (seen : List String) : List Item → List Item
  | [] => []
  | item :: items =>
    if item.key ∈ seen then firstOfEachKey seen items
    else item :: firstOfEachKey (item.key :: seen) items

/-- The list of `items`, without those whose key has come before. -/
def ofItems (items : List Item) : TodoList :=
  { items := firstOfEachKey [] items }

/-- The list shown before any real one is known. -/
def placeholder : TodoList :=
  ofItems placeholderItems

/-- `list` with other items.  The key sequence goes on: keys that it has given to writes still on
    their way are not among the new items yet. -/
def replaceItems (list : TodoList) (items : List Item) : TodoList :=
  { ofItems items with keys := list.keys }

/-! ## Looking into a list -/

/-- The item with the key `key`. -/
def get? (list : TodoList) (key : String) : Option Item :=
  list.items.find? fun item => item.key = key

/-- How many items there are. -/
def size (list : TodoList) : Nat :=
  list.items.length

/-! ## Transitions -/

/-- `items` with the flag of the first item with the key `key` set to `done`. -/
def setDone (key : String) (done : Bool) : List Item → List Item
  | [] => []
  | item :: items =>
    if item.key = key then { item with done := done } :: items
    else item :: setDone key done items

/-- The items after the repository has taken `write`: a new item comes last, unless its key is
    there already; a turned item keeps its place, and one that is gone stays gone. -/
def acknowledge (list : TodoList) : PendingWrite → TodoList
  | .add item =>
    if (list.get? item.key).isSome then list else { list with items := list.items ++ [item] }
  | .toggle item => { list with items := setDone item.key item.done list.items }

/-- The list after an action, and what the action asks for. -/
def update (list : TodoList) : Action → TodoList × Option Command
  | .add raw =>
    let name := Text.trim raw
    if name = "" then (list, none)
    else
      let (key, keys) := list.keys.nextKey (list.items.map Item.key)
      ({ list with keys }, some (.write (.add { name, key })))
  | .toggle key =>
    match list.get? key with
    | none => (list, none)
    | some item => (list, some (.write (.toggle { item with done := !item.done })))
  | .acknowledged write => (list.acknowledge write, none)
  | .rejected write reason => (list, some (.alert (write.refusal reason)))

end TodoList

end TodoSite
