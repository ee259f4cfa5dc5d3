/-
  Addresses derived from the path of a list.

  One path, carried by the page, leads to everything that belongs to a list: the nodes of its items,
  its export, and the bundle of its page.  Slashes at its end do not matter.
-/
import TodoSite.Text.Blank

namespace TodoSite.Address

/-- The ending of the address of an export. -/
def modelEnding : String := ".model.json"

/-- Where the item with the key `key` of the list at `resource` is written. -/
def item (resource key : String) : String :=
  Text.dropEndSlashes resource ++ "/items/" ++ key

/-- Where the list at `resource` is exported. -/
def model (resource : String) : String :=
  Text.dropEndSlashes resource ++ modelEnding

/-- Where the page of the list at `resource` loads its bundle from. -/
def bundle (resource : String) : String :=
  "/clientlib" ++ Text.dropEndSlashes resource ++ "/jsbundle.js"

end TodoSite.Address
