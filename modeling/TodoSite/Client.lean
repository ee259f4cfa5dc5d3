/-
  The repository as a browser reaches it.

  A write is one form sent to the address of the item, a fetch is one request for the export of the
  list.  Neither is tried again.  Any status from 200 to 299 is a success.
-/
import TodoSite.ItemStore
import TodoSite.Model.Reader
import TodoSite.Network

namespace TodoSite.Client

/-- The request that writes an item of the list at `resource`. -/
def writeRequest (resource : String) (item : Item) : Outgoing :=
  { method := "POST", url := Address.item resource item.key, headers := [("Content-Type", formType)],
    body := some item.formBody }

/-- The request for the export of the list at `resource`. -/
def fetchRequest (resource : String) : Outgoing :=
  { method := "GET", url := Address.model resource, headers := [("Accept", "application/json")],
    body := none }

/-- Whether a status is one of success. -/
def isSuccess (status : Nat) : Bool := 200 ≤ status && status ≤ 299

/-- What a reply to a write says. -/
def written : Reply → Except RemoteError Unit
  | .unmade message => .error (.serialization message)
  | .failed message => .error (.request message)
  | .answered status _ => if isSuccess status then .ok () else .error (.status status)

/-- The model in a text, or what is wrong with it in words. -/
def readModel (source : String) : Except RemoteError Model :=
  match Model.read source with
  | .ok model => .ok model
  | .error fault => .error (.deserialization (fault.message source))

/-- What a reply to a fetch says. -/
def fetched : Reply → Except RemoteError Model
  | .unmade message => .error (.request message)
  | .failed message => .error (.request message)
  | .answered status body => if isSuccess status then readModel body else .error (.status status)

/-- The store at the other end of a network. -/
def store : ItemStore Network where
  write n resource item :=
    let (reply, n) := n.send (writeRequest resource item)
    (written reply, n)
  fetch n resource :=
    let (reply, n) := n.send (fetchRequest resource)
    (fetched reply, n)

end TodoSite.Client
