/-
  Lists in the repository.

  A list is a node with a title whose child `items` has one child for each item, in order: the name
  of that node is the key of the item.  `model` exports the list at an address; `seed` writes one,
  with the same forms that a browser would send.
-/
import TodoSite.Address
import TodoSite.Repository

namespace TodoSite

/-- The property that holds the title of a list. -/
def titleProperty : String := "jcr:title"

namespace Repository

/-! ## Export -/

/-- The node under which the items of the list at `p` are kept. -/
def itemsFolder (p : Path) : Path := p.entry "items"

/-- The item that a node holds.  A node without a name, or without a flag, is an item all the same. -/
def itemAt (p : Path) (node : Node) : Item :=
  { name := (node.text? "name").getD "", done := (node.bool? "done").getD false,
    key := p.lastName, path := some p.render }

/-- The model of the list at a path whose node is `node`. -/
def modelAt (r : Repository) (p : Path) (node : Node) : Model :=
  { title := (node.text? titleProperty).getD defaultTitle,
    items := (r.childrenOf (itemsFolder p)).map fun entry => itemAt entry.1 entry.2 }

/-- The model of the list at an address. -/
def model (r : Repository) (address : String) : Except RepositoryError Model :=
  match Path.ofString? address with
  | none => .error (.notFound address)
  | some p =>
    match r.get? p with
    | none => .error (.notFound address)
    | some node => .ok (r.modelAt p node)

/-! ## Seeding -/

/-- The fields with which an item is seeded. -/
def seedFields (item : Item) : Fields :=
  [("name", item.name), ("done", boolText item.done), ("done@TypeHint", "boolean")]

/-- Writes items below `base` until one is refused; what has been written stays. -/
def seedItems (base : String) : Repository → List Item → Except RepositoryError Unit × Repository
  | r, [] => (.ok (), r)
  | r, item :: items =>
    match r.upsert (Address.item base item.key) (seedFields item) with
    | (.ok _, r) => seedItems base r items
    | (.error e, r) => (.error e, r)

/-- Writes a list with a title and items. -/
def seed (r : Repository) (address title : String) (items : List Item) :
    Except RepositoryError Unit × Repository :=
  match r.upsert address [(titleProperty, title)] with
  | (.error e, r) => (.error e, r)
  | (.ok _, r) =>
    match Path.ofString? address with
    | none => (.error (.invalidPath address), r)
    | some p => seedItems p.render r items

end Repository

end TodoSite
