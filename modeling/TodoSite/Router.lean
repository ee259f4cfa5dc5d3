/-
  The server.

      GET   a path               the page of the list there
      GET   a path + .model.json its export
      GET   a path + .json       the properties of the node there
      POST  a path               a form write
      GET   /clientlib/…         a file

  `Router.respond` takes one request to a response and the tree afterwards.  Only a form write can
  change the tree; it answers 201 where the node is new and 200 where it was there.  A request that
  only looks (`HEAD`) is answered like `GET`, without the body.  Bodies are taken to be no longer than
  a server reads.
-/
import TodoSite.Form
import TodoSite.Model.Json
import TodoSite.Page
import TodoSite.Repository.Export

namespace TodoSite

/-- A stored value as JSON. -/
def Value.toJson : Value → Json
  | .text s => .text s
  | .bool b => .bool b

/-- The properties of a node as JSON, in the order of their names. -/
def Node.propertiesJson (node : Node) : Json :=
  .object (node.properties.map fun (name, value) => (name, value.toJson))

/-- The response to a refusal. -/
def RepositoryError.response (e : RepositoryError) : Response :=
  match e with
  | .notFound _ => .plain 404 e.message
  | .invalidPath _ | .invalidValue _ _ _ => .plain 400 e.message

namespace Router

/-- Where the addresses of files begin. -/
def filesRoot : String := "/clientlib/"

/-- Whether a path asks for a file: something must follow the beginning. -/
def isFilePath (path : String) : Bool :=
  filesRoot.toList.isPrefixOf path.toList && filesRoot.length < path.length

/-- How the address of the properties of a node ends. -/
def propertiesEnding : String := ".json"

/-- The answer to a `GET` of a path that is no file. -/
def read (r : Repository) (path : String) : Response :=
  match Text.dropEnding? Address.modelEnding path with
  | some resource =>
    match r.model resource with
    | .ok model => .json model.render
    | .error e => e.response
  | none =>
    match Text.dropEnding? propertiesEnding path with
    | some resource =>
      match r.at? resource with
      | some node => .json node.propertiesJson.render
      | none => (RepositoryError.notFound resource).response
    | none =>
      match r.model path with
      | .ok model => Page.response serverFolder ⟨path, model⟩
      | .error e => e.response

/-- The answer to a body that is no form. -/
def formRequired : Response :=
  .plain 415 ("Form requests must have `Content-Type: " ++ formType ++ "`")

/-- The answer to a `POST`, and the tree afterwards. -/
def write (r : Repository) (request : Request) : Response × Repository :=
  if request.isForm then
    match r.upsert request.path (Form.decode request.body) with
    | (.ok .created, r) => ({ status := 201 }, r)
    | (.ok .updated, r) => ({ status := 200 }, r)
    | (.error e, r) => (e.response, r)
  else (formRequired, r)

/-- A response without its body. -/
def withoutBody (response : Response) : Response :=
  { response with body := [] }

/-- The answer to a request for a file. -/
def file (request : Request) : Response :=
  match request.method with
  | "GET" => Asset.serve serverFolder request.path
  | "HEAD" => withoutBody (Asset.serve serverFolder request.path)
  | _ => .notAllowed "GET,HEAD"

/-- The answer to a request, and the tree afterwards. -/
def respond (r : Repository) (request : Request) : Response × Repository :=
  if isFilePath request.path then (file request, r)
  else
    match request.method with
    | "GET" => (read r request.path, r)
    | "HEAD" => (withoutBody (read r request.path), r)
    | "POST" => write r request
    | _ => (.notAllowed "GET,HEAD,POST", r)

/-- The answers to requests in order, and the tree after all of them. -/
def respondAll (r : Repository) : List Request → List Response × Repository
  | [] => ([], r)
  | request :: requests =>
    let (response, r) := respond r request
    let (responses, r) := respondAll r requests
    (response :: responses, r)

end Router

end TodoSite
