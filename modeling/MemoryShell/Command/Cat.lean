import MemoryShell.Command.Operands

set_option autoImplicit false

namespace MemoryShell.Commands

open Shell

def fileText (p : Path) : ShellM (Option Text) := do
  let s ← stat p
  if s.kind = .directory then pure none
  else onVolume fun _ => (fun s => some (Text.ofString s)) <$> Volume.readText p.text "utf-8"

/-- The contents of files, one after another, behind what was read before. -/
def catAfter (before : Text) : List Text → ShellM Outcome
  | [] => pure (.text before)
  | arg :: args => do
    let p ← resolve arg
    match ← tryFiles (fileText p) with
    | .ok none => pure (.refused .notADirectory (Message.notADirectory p.base "cat"))
    | .ok (some text) => catAfter (before ++ text) args
    | .error e =>
      if e.isMissing then
        pure (.refused .noSuchDirectory (Message.noSuchDirectory p.base "cat"))
      else if e.isPermission then
        pure (.refused .permissionDenied ("cat: " ++ p.base ++ ": " ++ e.message))
      else throw (.volume (.file e p.text))

def cat : List Text → ShellM Outcome :=
  catAfter []

end MemoryShell.Commands
