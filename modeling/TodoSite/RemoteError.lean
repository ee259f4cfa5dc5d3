/-
  Why a call to the repository failed, as a person is told.
-/
namespace TodoSite

/-- Why a call to the repository failed. -/
inductive RemoteError where
  /-- The body of the request could not be written. -/
  | serialization (message : String)
  /-- The request got no answer. -/
  | request (message : String)
  /-- The answer had a status other than success. -/
  | status (code : Nat)
  /-- The body of the answer could not be read. -/
  | deserialization (message : String)
  deriving DecidableEq, Repr

/-- The wording of a failure. -/
def RemoteError.message : RemoteError → String
  | .serialization m => "Serialization error: " ++ m
  | .request m => "Request error: " ++ m
  | .status code => "HTTP " ++ Nat.repr code
  | .deserialization m => "Deserialization error: " ++ m

end TodoSite
