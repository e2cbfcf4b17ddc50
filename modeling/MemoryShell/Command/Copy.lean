import MemoryShell.Command.Operands

set_option autoImplicit false

namespace MemoryShell.Commands

open Shell

/-- Copies what lies below one path to below another, level by level of the source. The bound on the
levels is only reached where a directory is copied into itself. -/
def copyTree : Nat → Path → Path → ShellM Unit
  | 0, _, _ => throw (.volume .endless)
  | levels + 1, source, target => do
    onVolume fun now => Volume.makeDirectories now target.text
    let names ← onVolume fun _ => Volume.readDirectory source.text
    copyEach (copyTree levels) source target names
where
  /-- Copies the entries of a directory, one after another. -/
  copyEach (copyDirectory : Path → Path → ShellM Unit) (source target : Path) :
      List Name → ShellM Unit
    | [] => pure ()
    | name :: names => do
      let inner : Path := source ++ [name]
      let copy : Path := target ++ [name]
      if ← isDirectory inner then copyDirectory inner copy
      else onVolume fun now => Volume.copyFile now inner.text copy.text
      copyEach copyDirectory source target names

def liesIn (directory p : Path) : Bool :=
  p = directory || (directory ≠ [] && directory.isPrefixOf p)

/-- How copying one source ends: with nothing to say, or with a refusal. -/
def copyOne (recursive : Bool) (source target : Path) : ShellM (Option Text) := do
  let s ← stat source
  if s.kind = .file then
    onVolume fun now => Volume.copyFile now source.text target.text
    pure none
  else if !recursive then
    pure (some ("cp: -r not specified; omitting directory '" ++ source.base ++ "'"))
  else if liesIn source target then
    pure (some ("cp: cannot copy a directory, '" ++ source.base ++ "', into itself"))
  else
    let root := (← get).volume.root
    copyTree (root.height + 1) source target
    pure none

/-- Copies sources one after another, into a directory or over a file. -/
def copyAll (recursive intoDirectory : Bool) (destination : Path) : List Path → ShellM Outcome
  | [] => pure silence
  | source :: rest => do
    let target :=
      match intoDirectory, source.getLast? with
      | true, some name => destination ++ [name]
      | _, _ => destination
    match ← tryFiles (copyOne recursive source target) with
    | .ok none => copyAll recursive intoDirectory destination rest
    | .ok (some message) => pure (.refused .unknown message)
    | .error e =>
      if e = .noEntry then
        pure (.refused .noSuchDirectory (Message.noSuchDirectory source.base "cp"))
      else
        pure (.refused .unknown ("cp: cannot copy '" ++ source.base ++ "': " ++ e.message))

/-- Copies all operands but the last to the last. -/
def cp (args : List Text) : ShellM Outcome := do
  if args.length < 2 then return .refused .noCommand (Message.noCommand "cp")
  match flagsOf ['r', 'R'] args with
  | .error refusal => return refusal
  | .ok flags =>
    match flags.operands.getLast? with
    | none => return .refused .missingOperand (Message.missingOperand "cp")
    | some last =>
      if flags.operands.length < 2 then
        return .refused .missingOperand (Message.missingOperand "cp")
      let sources ← flags.operands.dropLast.mapM resolve
      let destination ← resolve last
      let intoDirectory ← isDirectory destination
      copyAll (flags.has 'r' || flags.has 'R') intoDirectory destination sources

end MemoryShell.Commands
