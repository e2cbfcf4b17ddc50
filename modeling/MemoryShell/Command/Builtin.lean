import MemoryShell.Command.Cat
import MemoryShell.Command.Copy
import MemoryShell.Command.Making
import MemoryShell.Command.Remove

set_option autoImplicit false

namespace MemoryShell.Commands

open Shell

/-- Changes the directory to the first operand. -/
def cd : List Text → ShellM Outcome
  | [] => pure (.refused .missingOperand (Message.missingOperand "cd"))
  | arg :: _ => do
    match ← attempt (changeDirectory arg) with
    | .ok _ => pure silence
    | .error (.shell kind message) => pure (.refused kind (Failure.said message))
    | .error f => throw f

def echo (args : List Text) : Outcome :=
  .text (List.intercalate (Text.ofString " ") args)

def runBuiltin : Builtin → List Text → ShellM Outcome
  | .cat, [] => pure (.refused .noCommand (Message.noCommand "cat"))
  | .cat, args => cat args
  | .cd, args => cd args
  | .cp, args => cp args
  | .echo, [] => pure (.refused .noCommand (Message.noCommand "echo"))
  | .echo, args => pure (echo args)
  | .mkdir, args => mkdir args
  | .rm, args => rm args
  | .touch, [] => pure (.refused .missingOperand (Message.missingOperand "touch"))
  | .touch, args => touchAll args

end MemoryShell.Commands
