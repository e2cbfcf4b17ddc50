import MemoryShell.Command.Operands

set_option autoImplicit false

namespace MemoryShell.Commands

open Shell

/-- Makes an empty file, or says why not. -/
def makeFile (p : Path) : ShellM (Option Outcome) := do
  match ← tryFiles (onVolume fun now => Volume.writeFile now .replace p.text []) with
  | .ok _ => pure none
  | .error e =>
    pure (some (.refused (if e.isPermission then .permissionDenied else .unknown)
      ("touch: cannot create file '" ++ p.text ++ "': " ++ e.message)))

/-- Sets the time of every operand; a missing file is made. -/
def touchAll : List Text → ShellM Outcome
  | [] => pure silence
  | arg :: rest => do
    let p ← resolve arg
    match ← tryFiles (onVolume fun now => Volume.setTimes p.text (.integer now)) with
    | .ok _ => touchAll rest
    | .error .noEntry =>
      match ← makeFile p with
      | none => touchAll rest
      | some refusal => pure refusal
    | .error e =>
      pure (.refused .unknown ("touch: cannot touch '" ++ arg ++ "': " ++ e.message))

/-- Makes directories and collects a message for each that is not made. -/
def makeAll (parents : Bool) : List Text → ShellM (List Text)
  | [] => pure []
  | operand :: rest => do
    let p ← resolve operand
    let made ← tryFiles (onVolume fun now =>
      if parents then Volume.makeDirectories now p.text else Volume.makeDirectory now p.text)
    match made with
    | .ok _ => makeAll parents rest
    | .error e => do
      let messages ← makeAll parents rest
      pure (Message.directoryNotMade p.base e.message :: messages)

/-- Makes every operand a directory; one that cannot be made does not stop the others. -/
def mkdir (args : List Text) : ShellM Outcome := do
  if args.isEmpty then return .refused .missingOperand (Message.missingOperand "mkdir")
  match flagsOf ['p'] args with
  | .error refusal => return refusal
  | .ok flags =>
    if flags.operands.isEmpty then
      return .refused .missingOperand (Message.missingOperand "mkdir")
    match ← makeAll (flags.has 'p') flags.operands with
    | [] => return silence
    | messages => return .refused .unknown (List.intercalate (Text.ofString "\n") messages)

end MemoryShell.Commands
