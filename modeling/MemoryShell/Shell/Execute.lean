import MemoryShell.Command.Invoke
import MemoryShell.CommandLine.Token
import MemoryShell.Shell.Hooks
import MemoryShell.Shell.Redirect

set_option autoImplicit false

namespace MemoryShell.Shell

/-- Runs a command between its hooks. -/
def runStages (execute : Json → ShellM Json) (tokens : Tokens) (command : Command) :
    ShellM Outcome := do
  let args := tokens.args.map Json.string
  runHooks execute .before (.string tokens.name) args none
  record (.bodyStarted tokens.name tokens.args)
  let outcome ← Commands.invoke execute command tokens.args
  match outcome with
  | .refused kind message => pure (.refused kind message)
  | .output output =>
    runHooks execute .after (.string tokens.name) args (some output)
    pure (.output output)

def handOver (tokens : Tokens) (output : Json) : Option Redirection → ShellM Json
  | some r => redirect output.display r.operator.symbol r.target tokens.name
  | none => emit .stdout output

/-- Runs a command of a line and answers for it. -/
def dispatch (execute : Json → ShellM Json) (tokens : Tokens) (redirection : Option Redirection)
    (command : Command) : ShellM Json := do
  match ← attempt (runStages execute tokens command) with
  | .error f => complain (Message.orUnknown f.message)
  | .ok (.refused _ message) => complain (Message.orUnknown message)
  | .ok (.output output) => handOver tokens output redirection

/-- Executes a line that is not blank. -/
def executeText (execute : Json → ShellM Json) (line : Text) : ShellM Json := do
  let parsed := CommandLine.parse line
  match Tokens.ofText parsed.command with
  | .error e => complain e.message
  | .ok tokens =>
    if tokens.name = [] then complain (Message.noCommand Message.shellName)
    else
      match (← get).registry.called? tokens.name with
      | none => complain (Message.commandNotFound tokens.name)
      | some command => dispatch execute tokens parsed.redirection command

def isInvalidLine (line : Json) : Bool :=
  match line.text? with
  | none => true
  | some t => CommandLine.isBlankLine t

/-- Executes a line; lines inside it are executed by what is given for that. -/
def executeWith (execute : Json → ShellM Json) (line : Json) : ShellM Json :=
  match line.text? with
  | none => complain (Message.noCommand Message.shellName)
  | some t =>
    if CommandLine.isBlankLine t then complain (Message.noCommand Message.shellName)
    else executeText execute t

def executeWithin : Nat → Json → ShellM Json
  | 0, _ => throw .tooDeep
  | depth + 1, line => executeWith (executeWithin depth) line

def nestingLimit : Nat := 150

def execute (line : Json) : ShellM Json :=
  executeWithin nestingLimit line

def commandNames : ShellM (List String) := do
  return (← get).registry.names

end MemoryShell.Shell
