/-
  The content repository.

  A tree of nodes, addressed by path.  It is kept twice: every stored path has its node, and every
  node lists the names of its children.  A write goes to one path; it makes the node, and the
  ancestors that are missing, and turns the fields of a form into properties:

  * a field is stored as a text under its own name, the last of a name counting;
  * unless the last field `name@TypeHint` says `boolean`: then it must spell a truth value;
  * the fields `…@TypeHint` themselves are not stored.

  CRUX.  All fields are converted before the tree is touched, so a write that is refused changes
  nothing.
-/
import TodoSite.Path
import TodoSite.Repository.Node

namespace TodoSite

/-- The nodes of a tree by their paths. -/
structure Repository where
  /-- Each stored path with its node; the root is always stored. -/
  nodes : List (Path × Node) := [(.root, {})]
  deriving DecidableEq, Repr, Inhabited

/-- Why the repository refuses a call. -/
inductive RepositoryError where
  /-- There is no node at this address. -/
  | notFound (address : String)
  /-- This is no address. -/
  | invalidPath (address : String)
  /-- The value of a field is not of the type that the hint asks for. -/
  | invalidValue (property hint value : String)
  deriving DecidableEq, Repr

/-- The wording of a refusal. -/
def RepositoryError.message : RepositoryError → String
  | .notFound address => "No resource at " ++ address
  | .invalidPath address => "Invalid path: " ++ address
  | .invalidValue property hint value =>
    "Invalid " ++ hint ++ " value for " ++ property ++ ": " ++ value

/-- The fields of a form in their order. -/
abbrev Fields := List (String × String)

namespace Fields

/-- How the name of a field that gives the type of another one ends. -/
def hintEnding : String := "@TypeHint"

/-- Whether a field gives the type of another one. -/
def isHint (name : String) : Bool :=
  hintEnding.toList.isSuffixOf name.toList

/-- The type that the field `name` is to be stored in: the last one given. -/
def hint? (fields : Fields) (name : String) : Option String :=
  (fields.reverse.find? fun field => field.1 = name ++ hintEnding).map (·.2)

/-- Whether a hint asks for a truth value. -/
def asksForBool (hint : String) : Bool :=
  Value.asciiLower hint = "boolean"

/-- The property that a field becomes. -/
def value (fields : Fields) (field : String × String) : Except RepositoryError (String × Value) :=
  match fields.hint? field.1 with
  | none => .ok (field.1, .text field.2)
  | some hint =>
    if asksForBool hint then
      match Value.spelledBool? field.2 with
      | some b => .ok (field.1, .bool b)
      | none => .error (.invalidValue field.1 hint field.2)
    else .ok (field.1, .text field.2)

/-- The properties that the fields become, in their order. -/
def values (fields : Fields) : Except RepositoryError (List (String × Value)) :=
  (fields.filter fun field => !isHint field.1).mapM fields.value

end Fields

namespace Repository

/-! ## Looking -/

/-- The node at a path. -/
def get? (r : Repository) (p : Path) : Option Node :=
  (r.nodes.find? fun entry => entry.1 = p).map (·.2)

/-- Whether there is a node at a path. -/
def contains (r : Repository) (p : Path) : Bool :=
  (r.get? p).isSome

/-- The node at an address. -/
def at? (r : Repository) (address : String) : Option Node :=
  (Path.ofString? address).bind r.get?

/-- The children of a node with their paths, in the order in which they were made. -/
def childrenOf (r : Repository) (p : Path) : List (Path × Node) :=
  match r.get? p with
  | none => []
  | some node =>
    node.children.filterMap fun name =>
      (r.get? (p.entry name)).map fun child => (p.entry name, child)

/-- The children of the node at an address. -/
def children (r : Repository) (address : String) : List (Path × Node) :=
  match Path.ofString? address with
  | none => []
  | some p => r.childrenOf p

/-! ## Writing -/

/-- `nodes` with `node` at `p`. -/
def setIn (p : Path) (node : Node) : List (Path × Node) → List (Path × Node)
  | [] => [(p, node)]
  | entry :: nodes => if entry.1 = p then (p, node) :: nodes else entry :: setIn p node nodes

/-- The tree with `node` at `p`. -/
def set (r : Repository) (p : Path) (node : Node) : Repository :=
  { nodes := setIn p node r.nodes }

/-- The tree with the node at `p` changed by `f`, if there is one. -/
def modify (r : Repository) (p : Path) (f : Node → Node) : Repository :=
  match r.get? p with
  | none => r
  | some node => r.set p (f node)

/-- The tree with a node at `p` and at all of its ancestors. -/
def ensure (r : Repository) : Path → Repository
  | .root => r
  | .child parent name =>
    if r.contains (.child parent name) then r
    else
      let r := (r.ensure parent).modify parent fun node =>
        { node with children := node.children ++ [name] }
      r.set (.child parent name) Node.unstructured

/-- What a write did. -/
inductive Upsert where
  /-- It made the node. -/
  | created
  /-- It changed a node that was there. -/
  | updated
  deriving DecidableEq, Repr

/-- The tree with a node at `p` that has these properties besides those it had before. -/
def put (r : Repository) (p : Path) (values : List (String × Value)) : Repository :=
  (r.ensure p).modify p fun node => { node with properties := node.properties.insertAll values }

/-- Writes the fields of a form to the node at an address. -/
def upsert (r : Repository) (address : String) (fields : Fields) :
    Except RepositoryError Upsert × Repository :=
  match Path.ofString? address with
  | none => (.error (.invalidPath address), r)
  | some p =>
    match fields.values with
    | .error e => (.error e, r)
    | .ok values => (.ok (if r.contains p then .updated else .created), r.put p values)

/-! ## Walking -/

/-- The nodes reached from `pending`, each before its children; `steps` bounds the length of the
    walk.  A path that has been `seen` is passed over. -/
def walkFrom (r : Repository) : (steps : Nat) → (seen pending : List Path) → List (Path × Node)
  | 0, _, _ => []
  | _ + 1, _, [] => []
  | steps + 1, seen, p :: pending =>
    if p ∈ seen then walkFrom r steps seen pending
    else
      match r.get? p with
      | none => walkFrom r steps (p :: seen) pending
      | some node =>
        (p, node) :: walkFrom r steps (p :: seen) ((r.childrenOf p).map (·.1) ++ pending)

/-- All nodes that can be reached from the root through lists of children.  Every stored node is
    entered once and each name in a list of children leads to one step. -/
def walk (r : Repository) : List (Path × Node) :=
  r.walkFrom (r.nodes.foldr (fun entry steps => entry.2.children.length + 1 + steps) 0) [] [.root]

end Repository

end TodoSite
