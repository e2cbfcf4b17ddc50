import MemoryShell.Command.Operands

set_option autoImplicit false

namespace MemoryShell.Commands

open Shell

/-- Removes one path; a directory without leave is refused. -/
def removeOne (recursive : Bool) (p : Path) : ShellM (Option Text) := do
  let s ← stat p
  if s.kind = .directory && !recursive then
    pure (some ("rm: cannot remove '" ++ p.text ++ "': Is a directory"))
  else
    onVolume fun now => Volume.remove now p.text recursive false
    pure none

/-- Removes operands one after another. -/
def removeAll (recursive force : Bool) : List Text → ShellM Outcome
  | [] => pure silence
  | operand :: rest => do
    let p ← resolve operand
    if p = [] then
      return .refused .permissionDenied "rm: it is dangerous to operate recursively on '/'"
    match ← tryFiles (removeOne recursive p) with
    | .ok none => removeAll recursive force rest
    | .ok (some message) => pure (.refused .unknown message)
    | .error e =>
      if e.isMissing then
        if force then removeAll recursive force rest
        else pure (.refused .noSuchDirectory (Message.noSuchDirectory p.text "rm"))
      else
        pure (.refused .unknown ("rm: cannot remove '" ++ p.text ++ "': " ++ e.message))

def rm (args : List Text) : ShellM Outcome := do
  if args.isEmpty then return .refused .noCommand (Message.noCommand "rm")
  match flagsOf ['r', 'R', 'f'] args with
  | .error refusal => return refusal
  | .ok flags =>
    if flags.operands.isEmpty then
      return .refused .missingOperand (Message.missingOperand "rm")
    removeAll (flags.has 'r' || flags.has 'R') (flags.has 'f') flags.operands

end MemoryShell.Commands
