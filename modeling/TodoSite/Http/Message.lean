/-
  Requests and responses.
-/
import TodoSite.Http.Uri

namespace TodoSite

open Text (Bytes)

/-! ## Requests -/

/-- A request as far as the server looks at it. -/
structure Request where
  /-- The method, in which letter case matters. -/
  method : String := "GET"
  /-- The path of the target. -/
  path : String
  /-- The header `Content-Type`. -/
  contentType : Option String := none
  /-- The body. -/
  body : Bytes := []
  deriving DecidableEq, Repr

/-- The content type of a form. -/
def formType : String := "application/x-www-form-urlencoded"

namespace Request

/-- Whether a method may be called `name`: by a word of letters, digits and some marks. -/
def isMethod (name : String) : Bool :=
  !name.isEmpty && name.toList.all fun c => Uri.isAlphanumeric c || c ∈ "!#$%&'*+-.^_`|~".toList

/-- Whether `c` may stand in a header: a control character may not, except a tab. -/
def isHeaderChar (c : Char) : Bool :=
  c = '\t' || (0x20 ≤ c.toNat && c.toNat ≠ 0x7F)

/-- Whether `c` may stand in a header that is read as a text. -/
def isHeaderText (c : Char) : Bool :=
  c = '\t' || Uri.between 0x20 0x7E c

/-- The request for a target, or none where its method, its header or its target is refused. -/
def make? (target : String) (method : String := "GET") (contentType : Option String := none)
    (body : Bytes := []) : Option Request :=
  if isMethod method && (contentType.getD "").toList.all isHeaderChar then
    (Uri.path? target).map fun path => { method, path, contentType, body }
  else none

/-- Whether the body is announced as a form: the header may go on after the type. -/
def isForm (request : Request) : Bool :=
  match request.contentType with
  | none => false
  | some type => type.toList.all isHeaderText && formType.toList.isPrefixOf type.toList

end Request

/-! ## Responses -/

/-- A response. -/
structure Response where
  /-- The status. -/
  status : Nat := 200
  /-- The header `Content-Type`. -/
  contentType : Option String := none
  /-- The header `Allow`. -/
  allow : Option String := none
  /-- The body. -/
  body : Bytes := []
  deriving DecidableEq, Repr

namespace Response

/-- A message as plain text. -/
def plain (status : Nat) (message : String) : Response :=
  { status, contentType := some "text/plain; charset=utf-8", body := Text.encode message }

/-- A document. -/
def html (document : String) : Response :=
  { contentType := some "text/html; charset=utf-8", body := Text.encode document }

/-- A JSON text. -/
def json (text : String) : Response :=
  { contentType := some "application/json", body := Text.encode text }

/-- The answer to a method that is not among `allowed`. -/
def notAllowed (allowed : String) : Response :=
  { status := 405, allow := some allowed }

/-- Whether the status is one of success. -/
def isSuccess (response : Response) : Bool :=
  200 ≤ response.status && response.status ≤ 299

end Response

end TodoSite
