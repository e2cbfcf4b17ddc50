import MemoryShell.Command.Builtin
import MemoryShell.Shell.Isolation

set_option autoImplicit false

namespace MemoryShell.Commands

open Shell

def joined (separator : Text) (parts : List Text) : Outcome :=
  .text (List.intercalate separator parts)

def searchPaths (environment : Mapping) : Except Failure (List Text) :=
  match Keyed.findText? environment (Text.ofString "PATH") with
  | none => .ok []
  | some (.string t) => .ok (Config.searchPaths t)
  | some v => .error (.fault (.member v.kindName "split"))

def shownVariable (environment : Mapping) (name : Text) : Text :=
  ((Keyed.findText? environment name).getD .null).display

/-- Runs a command; lines of its own are executed by what it is given for that. -/
def invoke (execute : Json → ShellM Json) (command : Command) (args : List Text) :
    ShellM Outcome := do
  let config := (← get).config
  match command with
  | .builtin b => runBuiltin b args
  | .say output => pure (.output output)
  | .refuse kind message => pure (.refused kind (Failure.said message))
  | .fail f => throw f
  | .user => pure (.output config.user)
  | .resolve => do
    let paths ← args.mapM resolve
    pure (joined "\n" (paths.map Path.text))
  | .searchPaths =>
    match searchPaths config.environment with
    | .ok paths => pure (joined "|" paths)
    | .error f => throw f
  | .names => pure (joined " " ((← get).registry.names.map Text.ofString))
  | .environment => pure (joined "|" (args.map (shownVariable config.environment)))
  | .arguments => pure (.text (Json.array (args.map Json.string)).print)
  | .evaluate => do
    let results ← args.mapM fun a => execute (.string a)
    match Demand.texts 0 results with
    | .ok lines => pure (joined "\n" lines)
    | .error f => throw (.fault f)
  | .script call => do
    let written ← runIsolate call (call.limits config.limits)
    pure (.text (written.out ++ "|" ++ written.err))

end MemoryShell.Commands
