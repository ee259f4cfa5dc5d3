/-
  The command line of the server.

  It makes the settings and the first repository from the arguments and the environment, and reports
  a start that fails.  A start that goes on announces where the page of the list is; the answers to
  the requests that come then are those of `Router.respond`, and carrying them is not done here.
-/
import TodoSite.Server.Startup

namespace TodoSite.Server

/-- What the command line offers. -/
def usageText : String :=
  String.intercalate "\n"
    ["Content repository serving the server-rendered todo example", "",
      "Usage: todo-server [OPTIONS]", "", "Options:",
      "      --addr <ADDR>                    Address to listen on",
      "      --resource-path <RESOURCE_PATH>  Repository path of the demo list",
      "      --title <TITLE>                  Title stored on the demo list",
      "      --seed-placeholders              Seed the demo list with the three placeholder items",
      "  -h, --help                           Print help"]

/-- A usage error in words. -/
def UsageError.message : UsageError → String
  | .invalidValue => "error: a value is required and none was supplied"
  | .unknownArgument => "error: unexpected argument found"
  | .argumentConflict => "error: an argument cannot be used multiple times"
  | .tooManyValues => "error: unexpected value for an argument that takes none"
  | .valueValidation => "error: invalid value"
  | .displayHelp => usageText

end TodoSite.Server

open TodoSite.Server in
/-- Starts the server; the exit code says how the start ended. -/
def main (args : List String) : IO UInt32 := do
  let env : Environment :=
    { address := ← IO.getEnv "TODO_ADDR", resource := ← IO.getEnv "TODO_RESOURCE_PATH",
      title := ← IO.getEnv "TODO_TITLE" }
  let startup := Startup.run args env
  match startup with
  | .ready settings _ =>
    IO.println ("Todo page: http://" ++ settings.address.render ++ settings.resource)
  | .refused settings error => IO.eprint (Startup.report settings error)
  | .usage .displayHelp => IO.println usageText
  | .usage error => IO.eprintln error.message
  return (startup.exitCode?.getD 0).toUInt32
