import MemoryShell.Command.Flags
import MemoryShell.Shell.Basic

set_option autoImplicit false

namespace MemoryShell.Commands

open Shell

def silence : Outcome := .text []

def flagsOf (allowed : Text) (args : List Text) : Except Outcome Flags :=
  match Flags.parse allowed args with
  | .ok f => .ok f
  | .error c => .error (.refused .invalidOperator (Message.invalidOperator [c]))

/-- Does something for the file system and gives its cause back if that is why it failed. -/
def tryFiles {α : Type} (x : ShellM α) : ShellM (Except Errno α) := do
  match ← attempt x with
  | .ok a => pure (.ok a)
  | .error (.volume (.file e _)) => pure (.error e)
  | .error f => throw f

end MemoryShell.Commands
