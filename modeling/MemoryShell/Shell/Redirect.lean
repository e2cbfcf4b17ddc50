import MemoryShell.CommandLine.Redirection
import MemoryShell.Shell.Emission

set_option autoImplicit false

namespace MemoryShell.Shell

/-- Whether a missing target may be made: there is a directory above it that grants writing. -/
def isCreatable (p : Path) : ShellM Bool := do
  let above : Path := p.dropLast
  let granted := do
    let s ← stat above
    onVolume fun _ => Volume.access above.text Access.write.flag
    pure s
  match ← attempt granted with
  | .ok s => pure (s.kind = .directory)
  | .error (.volume (.file _ _)) => pure false
  | .error f => throw f

/-- Whether output may be written to a path. -/
def isWritable (p : Path) : ShellM Bool := do
  match ← attempt (stat p) with
  | .ok s =>
    if s.kind = .directory then pure false
    else
      match ← attempt (onVolume fun _ => Volume.access p.text Access.write.flag) with
      | .ok _ => pure true
      | .error (.volume (.file _ _)) => pure false
      | .error f => throw f
  | .error (.volume (.file .noEntry _)) => isCreatable p
  | .error (.volume (.file _ _)) => pure false
  | .error f => throw f

def writeMode : RedirectionOperator → Volume.WriteMode
  | .write => .replace
  | .append => .append

/-- Writes output with a newline to a target and says so. -/
def redirect (output operator target command : Text) : ShellM Json := do
  let p ← resolve target
  if !(← isWritable p) then return ← complain (Message.permissionDenied p.text)
  match RedirectionOperator.ofSymbol? operator with
  | none => complain (Message.invalidOperator operator)
  | some op =>
    let data := output ++ "\n"
    match ← attempt (onVolume fun now => Volume.writeText now (writeMode op) p.text data) with
    | .ok _ =>
      record (.redirected p)
      emit .stdout (.string (Message.prefixed []))
    | .error (.volume (.file e _)) => complain (command ++ ": " ++ e.message)
    | .error f => throw f

/-- Writes output to a target where everything is given as a value. Only the target has to be a
text; the rest is taken as it is shown. -/
def redirectTo (output operator target command : Json) : ShellM Json :=
  match Demand.pathPart target with
  | .ok t => redirect output.display operator.display t command.display
  | .error f => throw (.fault f)

end MemoryShell.Shell
