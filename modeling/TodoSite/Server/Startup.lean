/-
  Starting the server.

  The server begins with an empty repository and writes its list into it.  A path at which no list
  can be written ends the start with a report; so does a command line that gives no settings.
-/
import TodoSite.Repository.Export
import TodoSite.Server.Settings

namespace TodoSite.Server

/-- How a start ends before the server listens. -/
inductive Startup where
  /-- It goes on with these settings and this repository. -/
  | ready (settings : Settings) (repository : Repository)
  /-- The list cannot be written. -/
  | refused (settings : Settings) (error : RepositoryError)
  /-- The command line gives no settings. -/
  | usage (error : UsageError)

namespace Startup

/-- The repository that the server begins with. -/
def seeded (settings : Settings) : Except RepositoryError Unit × Repository :=
  let items := if settings.seedPlaceholders then placeholderItems else []
  ({} : Repository).seed settings.resource settings.title items

/-- The start with a command line and an environment. -/
def run (args : List String) (env : Environment) : Startup :=
  match Settings.ofArguments args env with
  | .error e => .usage e
  | .ok settings =>
    match seeded settings with
    | (.ok (), r) => .ready settings r
    | (.error e, _) => .refused settings e

/-- `text` with each of its lines indented. -/
def indented (text : String) : String :=
  "    " ++ Text.replaceAll "\n" "\n    " text

/-- The report of a start that was refused: what was tried, and why it failed. -/
def report (settings : Settings) (error : RepositoryError) : String :=
  "Error: invalid resource path " ++ settings.resource ++ "\n\nCaused by:\n"
    ++ indented error.message ++ "\n"

/-- The exit code of a start that ends, or none where it goes on. -/
def exitCode? : Startup → Option Nat
  | .ready _ _ => none
  | .refused _ _ => some 1
  | .usage .displayHelp => some 0
  | .usage _ => some 2

/-- What a start writes to the error stream where its report is fixed. -/
def errorText? : Startup → Option String
  | .refused settings error => some (report settings error)
  | _ => none

end Startup

end TodoSite.Server
