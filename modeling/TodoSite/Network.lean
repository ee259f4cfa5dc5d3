/-
  The network between a browser and a server.

  A request goes out and either is answered, or fails on the way, or could not even be made.  The
  first answers may be laid out in advance; after them the server answers, with its repository, if
  there is one, and otherwise the network is down.  Every request that went out is recorded.
-/
import TodoSite.Router

namespace TodoSite

/-- A request as a browser makes it; the credentials of the page's own site always go with it. -/
structure Outgoing where
  /-- The method. -/
  method : String
  /-- The address. -/
  url : String
  /-- The headers in order. -/
  headers : List (String × String)
  /-- The body. -/
  body : Option String
  deriving DecidableEq, Repr

/-- What becomes of a request. -/
inductive Reply where
  /-- An answer with a status and a body. -/
  | answered (status : Nat) (body : String)
  /-- The request went out and got no answer. -/
  | failed (message : String)
  /-- The request could not be made. -/
  | unmade (message : String)
  deriving DecidableEq, Repr

/-- A network. -/
structure Network where
  /-- What becomes of the next requests. -/
  prepared : List Reply := []
  /-- The repository of the server, if there is a server. -/
  server : Option Repository := none
  /-- The requests that went out so far. -/
  sent : List Outgoing := []

namespace Network

/-- What the server makes of a request, and its repository afterwards. -/
def askServer (r : Repository) (request : Outgoing) : Reply × Repository :=
  let contentType := (request.headers.find? fun header => header.1 = "Content-Type").map (·.2)
  match Request.make? request.url request.method contentType (Text.encode (request.body.getD "")) with
  | none => (.failed "bad uri", r)
  | some request =>
    let (response, r) := Router.respond r request
    (.answered response.status (Text.decodeLossy response.body), r)

/-- What becomes of a request, and the network afterwards. -/
def send (n : Network) (request : Outgoing) : Reply × Network :=
  match n.prepared, n.server with
  | .unmade message :: prepared, _ => (.unmade message, { n with prepared })
  | reply :: prepared, _ => (reply, { n with prepared, sent := n.sent ++ [request] })
  | [], some r =>
    let (reply, r) := askServer r request
    (reply, { n with server := some r, sent := n.sent ++ [request] })
  | [], none => (.failed "offline", { n with sent := n.sent ++ [request] })

end Network

end TodoSite
