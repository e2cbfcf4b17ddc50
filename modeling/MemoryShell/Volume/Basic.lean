import MemoryShell.Text.Encoding
import MemoryShell.Volume.Node

/-!
A volume and its operations. Every operation takes a spelling, and what it changes it changes in
place: a failure keeps the changes made before it, so that a failing operation changes nothing is a
law and not a matter of the types. A released volume answers nothing any more; only a spelling that
cannot name a place in it is complained about first.
-/

set_option autoImplicit false

namespace MemoryShell

/-- A tree of files in memory, until it is released. -/
structure Volume where
  root : Node
  released : Bool

/-- Run to the end and give the outcome as a value. -/
def attempt {ε α : Type} {m : Type → Type} [Monad m] (x : ExceptT ε m α) :
    ExceptT ε m (Except ε α) :=
  ExceptT.mk do
    let r ← x.run
    return .ok r

/-- An operation that may change a volume and may fail. -/
abbrev VolumeM := ExceptT Volume.Error (StateM Volume)

namespace Volume

def empty (now : Int) : Volume :=
  ⟨.newDirectory now, false⟩

def release (now : Int) (_ : Volume) : Volume :=
  ⟨.newDirectory now, true⟩

/-- What a node is. -/
inductive Kind
  | file
  | directory
  deriving DecidableEq

def Kind.word : Kind → String
  | .file => "file"
  | .directory => "directory"

/-- What is known about a node without reading it. -/
structure Stat where
  path : Text
  kind : Kind
  size : Nat
  mode : Nat
  mtime : Json
  ctime : Int

def Stat.ofNode (p : Path) : Node → Stat
  | .file s data => ⟨p.text, .file, data.length, s.mode, s.mtime, s.ctime⟩
  | .directory s _ => ⟨p.text, .directory, 0, s.mode, s.mtime, s.ctime⟩

def ensureOpen : VolumeM Unit := do
  if (← get).released then throw .released

def locate (spelling : Text) : VolumeM Path :=
  match Path.parse? spelling with
  | some p => pure p
  | none => throw (.relative spelling)

def lookup (spelling : Text) : VolumeM Node := do
  ensureOpen
  let p ← locate spelling
  match (← get).root.walk p with
  | .ok node => pure node
  | .error e => throw (.file e spelling)

/-- A place in an existing directory, filled or not. -/
structure Slot where
  directory : Path
  stamp : Stamp
  entries : Entries
  name : Name

def Slot.path (slot : Slot) : Path :=
  slot.directory ++ [slot.name]

def Slot.node? (slot : Slot) : Option Node :=
  Entries.find? slot.entries slot.name

/-- The slot of a spelling. A failure on the way to the directory names the directory. -/
def slotOf (spelling : Text) : VolumeM Slot := do
  let p ← locate spelling
  match p.getLast? with
  | none => throw (.file .notPermitted spelling)
  | some name =>
    let directory : Path := p.dropLast
    match ← lookup directory.text with
    | .file _ _ => throw (.file .notDirectory spelling)
    | .directory stamp entries => pure ⟨directory, stamp, entries, name⟩

def demand (s : Stamp) (request : Int) (spelling : Text) : VolumeM Unit :=
  if s.allows request then pure () else throw (.file .accessDenied spelling)

def change (p : Path) (f : Node → Node) : VolumeM Unit :=
  modify fun v => { v with root := v.root.modify f p }

def place (now : Int) (directory : Path) (name : Name) (node : Node) : VolumeM Unit :=
  change directory fun d => (d.mapEntries (Entries.insert · name node)).touch now

def exists? (spelling : Text) : VolumeM Bool := do
  match ← attempt (lookup spelling) with
  | .ok _ => pure true
  | .error (.file e p) => if e.isMissing then pure false else throw (.file e p)
  | .error e => throw e

def stat (spelling : Text) : VolumeM Stat := do
  let node ← lookup spelling
  let p ← locate spelling
  pure (.ofNode p node)

def access (spelling : Text) (request : Int) : VolumeM Unit := do
  let node ← lookup spelling
  demand node.stamp request spelling

def readDirectory (spelling : Text) : VolumeM (List Name) := do
  match ← lookup spelling with
  | .file _ _ => throw (.file .notDirectory spelling)
  | .directory _ entries => pure (entries.map Prod.fst)

def readFile (spelling : Text) : VolumeM Bytes := do
  match ← lookup spelling with
  | .directory _ _ => throw (.file .isDirectory spelling)
  | .file s data =>
    demand s Access.read.flag spelling
    pure data

/-- How a write treats what a file already holds. -/
inductive WriteMode
  | replace
  | append
  deriving DecidableEq

def WriteMode.combine : WriteMode → Bytes → Bytes → Bytes
  | .replace, data, _ => data
  | .append, data, old => old ++ data

/-- The slot of a spelling at which a file may be written; fails exactly if a write fails. -/
def writableSlot (spelling : Text) : VolumeM Slot := do
  let slot ← slotOf spelling
  match slot.node? with
  | none => demand slot.stamp Access.write.flag spelling
  | some (.directory _ _) => throw (.file .isDirectory spelling)
  | some (.file s _) => demand s Access.write.flag spelling
  pure slot

def store (now : Int) (mode : WriteMode) (slot : Slot) (data : Bytes) : VolumeM Unit :=
  match slot.node? with
  | none => place now slot.directory slot.name (.newFile now data)
  | some _ => change slot.path fun node => (node.setData (mode.combine data)).touch now

def writeFile (now : Int) (mode : WriteMode) (spelling : Text) (data : Bytes) : VolumeM Unit := do
  let slot ← writableSlot spelling
  store now mode slot data

def writeText (now : Int) (mode : WriteMode) (spelling : Text) (t : Text) : VolumeM Unit :=
  match Utf8.encodeText? t with
  | none => throw .unencodable
  | some data => writeFile now mode spelling data

def makeDirectory (now : Int) (spelling : Text) : VolumeM Unit := do
  let slot ← slotOf spelling
  match slot.node? with
  | some _ => throw (.file .exists spelling)
  | none =>
    demand slot.stamp Access.write.flag spelling
    place now slot.directory slot.name (.newDirectory now)

/-- Makes the missing directories below one that is there. -/
def makeBelow (now : Int) (spelling : Text) : Path → Path → VolumeM Unit
  | _, [] => pure ()
  | above, name :: rest => do
    match (← get).root.at? (above ++ [name]) with
    | none => place now above name (.newDirectory now)
    | some (.file _ _) => throw (.file .notDirectory spelling)
    | some (.directory _ _) => pure ()
    makeBelow now spelling (above ++ [name]) rest

def makeDirectories (now : Int) (spelling : Text) : VolumeM Unit := do
  ensureOpen
  let p ← locate spelling
  makeBelow now spelling [] p

def copyFile (now : Int) (source destination : Text) : VolumeM Unit := do
  let data ← readFile source
  writeFile now .replace destination data

/-- The slot of an existing node. -/
def filledSlot (spelling : Text) : VolumeM (Slot × Node) := do
  let slot ← slotOf spelling
  match slot.node? with
  | none => throw (.file .noEntry spelling)
  | some node => pure (slot, node)

/-- Removes a node; a directory only on request, and a missing node is no failure if forced. -/
def remove (now : Int) (spelling : Text) (recursive force : Bool) : VolumeM Unit := do
  match ← attempt (filledSlot spelling) with
  | .error (.file .noEntry p) => if force then pure () else throw (.file .noEntry p)
  | .error e => throw e
  | .ok (slot, node) =>
    if node.isDirectory && !recursive then throw (.file .isDirectory spelling)
    else change slot.directory fun d => (d.mapEntries (Entries.erase · slot.name)).touch now

def setTimes (spelling : Text) (mtime : Json) : VolumeM Unit := do
  let _ ← lookup spelling
  let p ← locate spelling
  change p (Node.setTime mtime)

def setMode (spelling : Text) (mode : Int) : VolumeM Unit := do
  let _ ← lookup spelling
  let p ← locate spelling
  change p (Node.mapStamp fun s => { s with mode := (mode % 0o1000).toNat })

/-- The text of a file. An encoding that is not known is complained about when there is something
to decode, and a name that no encoding can have is complained about anyway. -/
def readText (spelling : Text) (encoding : String) : VolumeM String := do
  let data ← readFile spelling
  if encoding.toList.contains '\x00' then throw .nullInEncoding
  match Encoding.ofName? encoding with
  | some e => pure (e.decode data)
  | none => if data.isEmpty then pure "" else throw (.unknownEncoding encoding)

end Volume

end MemoryShell
