import MemoryShell.Command.Basic
import MemoryShell.Hook
import MemoryShell.Listener
import MemoryShell.Registry

/-!
The state of a shell and the steps that can be observed of it. A shell works in one directory of one
volume. What fails in it keeps the changes made before; what happens in it is recorded in order.

Some things are left out. Nothing is logged, so nothing fails in logging, as it does when debugging is
logged: the record of a line has a reserved key. The depth of recursion is limited only where a source is
written; elsewhere trees and values may be nested without end. Encodings other than UTF-8, Latin-1 and
ASCII are unknown. Values reach an isolate as what they are unpickled to, and what cannot be pickled
counts only as that. Hooks, commands and listeners are of fixed kinds, none of which closes a shell,
restores one or calls its files.
-/

set_option autoImplicit false

namespace MemoryShell

/-- An entry of the log that hooks and listeners write. -/
inductive LogEntry
  | args (id : Json) (args : List Json)
  | argsAndOutput (id : Json) (args : List Json) (output : Json)
  | value (id value : Json)

/-- What can be observed of a shell. -/
inductive Step
  | emitted (c : Channel) (message : Json)
  | heard (c : Channel) (listener message : Json)
  | hookStarted (stage : Stage) (command id : Json) (args : List Json)
  | bodyStarted (command : Text) (args : List Text)
  | redirected (path : Path)
  | logged (entry : LogEntry)
  | isolated (report : Isolate.Report)

/-- A shell at some time. -/
structure Shell where
  config : Config
  directory : Text
  volume : Volume
  registry : Registry Command
  hooksBefore : HookPipeline
  hooksAfter : HookPipeline
  listeners : Listeners
  activeIsolates : Int
  clock : Int
  trace : List Step

/-- Something done in a shell that may fail. -/
abbrev ShellM := ExceptT Failure (StateM Shell)

namespace Shell

def builtins : List (String × Offer Command) :=
  Builtin.all.map fun b => (b.name, .made (.command (.builtin b)))

/-- The volume that a snapshot describes, which has to be a text or octets. -/
def loadAny (now : Int) : Argument → Except Failure Volume
  | .octets bs =>
    match Snapshot.readOctets now bs with
    | .ok volume => .ok volume
    | .error e => .error (.snapshot e)
  | .foreign x => .error (.fault (.jsonKind x.kindName))
  | .value v =>
    match Demand.snapshot v with
    | .error f => .error (.fault f)
    | .ok t =>
      match Snapshot.read now t with
      | .ok volume => .ok volume
      | .error e => .error (.snapshot e)

def loadVolume (now : Int) (v : Json) : Except Failure Volume :=
  loadAny now (.value v)

def startVolume (now : Int) (config : Config) : Except Failure Volume :=
  if config.snapshot.isTruthy then loadVolume now config.snapshot else .ok (.empty now)

/-- A new shell. The settings are checked first, then the volume is read, then the commands. -/
def build (now : Int) (settings : Settings) (commands : List (String × Offer Command)) :
    Except Failure Shell := do
  let config ← settings.check
  let volume ← startVolume now config
  let registry ← Registry.empty.registerAll commands
  pure ⟨config, config.directory, volume, registry, [], [], .empty, 0, now, []⟩

def record (s : Step) : ShellM Unit :=
  modify fun shell => { shell with trace := shell.trace ++ [s] }

/-- Does something to the volume, at the time of the shell's clock. -/
def onVolume {α : Type} (op : Int → VolumeM α) : ShellM α := do
  let shell ← get
  let (r, v) := (op shell.clock).run.run shell.volume
  set { shell with volume := v }
  match r with
  | .ok a => pure a
  | .error e => throw (.volume e)

/-- The path of a spelling seen from the shell's directory. -/
def resolve (spelling : Text) : ShellM Path := do
  let directory := (← get).directory
  match Path.resolve? directory spelling with
  | some p => pure p
  | none => throw (.volume (.relative (Path.join directory spelling)))

def stat (p : Path) : ShellM Volume.Stat :=
  onVolume fun _ => Volume.stat p.text

/-- Whether a path leads to a directory. -/
def isDirectory (p : Path) : ShellM Bool := do
  match ← attempt (stat p) with
  | .ok s => pure (s.kind = .directory)
  | .error (.volume (.file e path)) =>
    if e.isMissing then pure false else throw (.volume (.file e path))
  | .error f => throw f

def callFiles (method : String) (placed : List Argument) (named : Assignment) :
    ShellM Volume.Value := do
  let shell ← get
  let (r, v) := (Invocation.call .files shell.clock method placed named).run.run shell.volume
  set { shell with volume := v }
  match r with
  | .ok value => pure value
  | .error (.volume e) => throw (.volume e)
  | .error (.fault f) => throw (.fault f)

def answer (r : Request) : ShellM Reply := do
  let directory := (← get).directory
  onVolume fun now => r.answer directory now

def snapshot : ShellM String := do
  match Snapshot.write (← get).volume with
  | .ok s => pure s
  | .error e => throw (.volume e)

/-- Replaces the volume by what a snapshot describes, and gives back the released old one. A
snapshot that does not load changes nothing. -/
def restore (snapshot : Json) : ShellM Volume := do
  let shell ← get
  match loadVolume shell.clock snapshot with
  | .error f => throw f
  | .ok v =>
    set { shell with volume := v }
    pure (shell.volume.release shell.clock)

def close : ShellM Unit :=
  modify fun shell => { shell with volume := shell.volume.release shell.clock }

/-- Changes the directory to an existing one. -/
def changeDirectory (spelling : Text) : ShellM Path := do
  let target ← resolve spelling
  match ← attempt (stat target) with
  | .ok s =>
    if s.kind = .directory then
      modify fun shell => { shell with directory := target.text }
      pure target
    else throw (.shell .notADirectory (.string (Message.notADirectory spelling "cd")))
  | .error (.volume (.file e path)) =>
    if e.isMissing then
      throw (.shell .noSuchDirectory (.string (Message.noSuchDirectory spelling "cd")))
    else throw (.volume (.file e path))
  | .error f => throw f

def changeDirectoryTo (v : Json) : ShellM Path :=
  match Demand.pathPart v with
  | .ok t => changeDirectory t
  | .error f => throw (.fault f)

end Shell

end MemoryShell
