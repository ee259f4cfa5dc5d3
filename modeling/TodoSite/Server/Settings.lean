/-
  The settings of the server, from its command line and its environment.

      --addr ADDRESS:PORT    where to listen            TODO_ADDR
      --resource-path PATH   the path of the list       TODO_RESOURCE_PATH
      --title TITLE          the title of the list      TODO_TITLE
      --seed-placeholders    begin with some items
      -h, --help             a word of help

  A value stands behind `=` or in the next argument, which may then not begin with a hyphen, unless
  it is a hyphen alone.  Each option may be given once.  What is not given is taken from the
  environment, and what is not there either has a default.

  CRUX.  A value in an argument of its own is looked at late: only when the next known option comes,
  or at the end.  So of two faults the first one need not be the one that is reported: an unknown
  argument is reported before a bad value that stands just before it.
-/
import TodoSite.Model
import TodoSite.Server.SocketAddress
import TodoSite.Text.Pieces

namespace TodoSite.Server

/-- The settings. -/
structure Settings where
  /-- Where to listen. -/
  address : SocketAddress := .v4 [127, 0, 0, 1] 3000
  /-- The path of the list. -/
  resource : String := "/content/todo"
  /-- The title of the list. -/
  title : String := defaultTitle
  /-- Whether the list begins with the placeholder items. -/
  seedPlaceholders : Bool := false
  deriving DecidableEq, Repr

/-- Why the command line gives no settings. -/
inductive UsageError where
  /-- An option has no value. -/
  | invalidValue
  /-- An argument is not known. -/
  | unknownArgument
  /-- An option is given twice. -/
  | argumentConflict
  /-- An option has a value and takes none. -/
  | tooManyValues
  /-- A value is not of the form that it must have. -/
  | valueValidation
  /-- Help is asked for. -/
  | displayHelp
  deriving DecidableEq, Repr

/-- What the environment says. -/
structure Environment where
  /-- The variable for the address. -/
  address : Option String := none
  /-- The variable for the path. -/
  resource : Option String := none
  /-- The variable for the title. -/
  title : Option String := none

/-- An option with a value. -/
inductive ValueOption where
  /-- Where to listen. -/
  | address
  /-- The path of the list. -/
  | resource
  /-- The title of the list. -/
  | title
  deriving DecidableEq, Repr

/-- An option. -/
inductive CommandOption where
  /-- One with a value. -/
  | value (option : ValueOption)
  /-- The one that seeds the placeholder items. -/
  | seedPlaceholders
  /-- The one that asks for help. -/
  | help
  deriving DecidableEq, Repr

/-- The option with this name. -/
def CommandOption.ofName? (name : String) : Option CommandOption :=
  if name = "addr" then some (.value .address)
  else if name = "resource-path" then some (.value .resource)
  else if name = "title" then some (.value .title)
  else if name = "seed-placeholders" then some .seedPlaceholders
  else if name = "help" then some .help
  else none

/-! ## Arguments -/

/-- How an argument is read. -/
inductive Argument where
  /-- Two hyphens, after which nothing is an option. -/
  | optionsEnd
  /-- An option by name, with what stands behind `=`. -/
  | option (name : String) (value : Option String)
  /-- One or more letters behind a single hyphen. -/
  | letters (first : Char)
  /-- Anything else. -/
  | plain (text : String)
  deriving DecidableEq, Repr

/-- Reads an argument. -/
def Argument.ofString (text : String) : Argument :=
  match text.toList with
  | ['-', '-'] => optionsEnd
  | '-' :: '-' :: rest =>
    match Text.cutAt '=' rest with
    | some (name, value) => option (String.ofList name) (some (String.ofList value))
    | none => option (String.ofList rest) none
  | '-' :: c :: _ => letters c
  | _ => plain text

/-! ## Gathering -/

/-- What has been read of a command line. -/
structure Gathered where
  /-- The address. -/
  address : Option SocketAddress := none
  /-- The path. -/
  resource : Option String := none
  /-- The title. -/
  title : Option String := none
  /-- Whether the placeholder items are asked for. -/
  seedPlaceholders : Bool := false
  /-- The last option, while its value has not been looked at, and the value if it has come. -/
  waiting : Option (ValueOption × Option String) := none
  /-- Whether nothing is an option any more. -/
  ended : Bool := false

namespace Gathered

/-- An option gets its value. -/
def put (g : Gathered) (value : String) : ValueOption → Except UsageError Gathered
  | .address =>
    if g.address.isSome then .error .argumentConflict
    else
      match SocketAddress.ofString? value with
      | none => .error .valueValidation
      | some a => .ok { g with address := some a }
  | .resource =>
    if g.resource.isSome then .error .argumentConflict else .ok { g with resource := some value }
  | .title => if g.title.isSome then .error .argumentConflict else .ok { g with title := some value }

/-- The option that waits gets its value. -/
def settle (g : Gathered) : Except UsageError Gathered :=
  match g.waiting with
  | none => .ok g
  | some (_, none) => .error .invalidValue
  | some (option, some value) => { g with waiting := none }.put value option

/-- Reads one argument. -/
def step (g : Gathered) (text : String) : Except UsageError Gathered := do
  if g.ended then throw .unknownArgument
  match Argument.ofString text with
  | .optionsEnd => return { g with ended := true }
  | .option name value =>
    match CommandOption.ofName? name, value with
    | none, _ => throw .unknownArgument
    | some (.value option), some value => (← g.settle).put value option
    | some (.value option), none => return { ← g.settle with waiting := some (option, none) }
    | some _, some _ => throw .tooManyValues
    | some .seedPlaceholders, none =>
      let g ← g.settle
      if g.seedPlaceholders then throw .argumentConflict
      return { g with seedPlaceholders := true }
    | some .help, none =>
      let _ ← g.settle
      throw .displayHelp
  | .letters c =>
    if c = 'h' then
      let _ ← g.settle
      throw .displayHelp
    throw .unknownArgument
  | .plain text =>
    match g.waiting with
    | some (option, none) => return { g with waiting := some (option, some text) }
    | _ => throw .unknownArgument

end Gathered

namespace Settings

/-- The settings that a command line and the environment give. -/
def ofArguments (args : List String) (env : Environment) : Except UsageError Settings := do
  let g ← (← args.foldlM Gathered.step {}).settle
  let defaults : Settings := {}
  let address ← match g.address, env.address with
    | some a, _ => pure a
    | none, some text =>
      match SocketAddress.ofString? text with
      | some a => pure a
      | none => throw .valueValidation
    | none, none => pure defaults.address
  return {
    address
    resource := (g.resource.or env.resource).getD defaults.resource
    title := (g.title.or env.title).getD defaults.title
    seedPlaceholders := g.seedPlaceholders }

end Settings

end TodoSite.Server
