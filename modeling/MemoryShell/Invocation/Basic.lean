import MemoryShell.Invocation.Method
import MemoryShell.Volume.Operation

/-!
Operations called by name with arguments of any kind. An invocation comes to an operation of the
volume where its arguments fit; where one does not, it fails at the point at which that argument is
first looked at, so that what is found out before still counts.
-/

set_option autoImplicit false

namespace MemoryShell

/-- An operation with arguments of any kind. -/
inductive Invocation
  | exists (path : Argument)
  | stat (path : Argument)
  | access (path request : Argument)
  | readDirectory (path : Argument)
  | read (path encoding : Argument)
  | write (mode : Volume.WriteMode) (path content : Argument)
  | makeDirectory (path recursive : Argument)
  | copyFile (source destination : Argument)
  | remove (path recursive force : Argument)
  | setTimes (path : Argument) (mtime : Json)
  | setMode (path mode : Argument)

namespace Invocation

/-- The time that an argument gives. The files of a shell take no time for the present one. -/
def timeOf (r : Receiver) (now : Int) : Argument → Json
  | .value .null =>
    match r with
    | .volume => .null
    | .files => .integer now
  | .value v => v
  | .octets bs => .ofString (Literal.ofBytes bs)
  | .foreign x => .string x.display

/-- The invocation of a method with its arguments. -/
def ofMethod (r : Receiver) (now : Int) (a : Assignment) : Method → Invocation
  | .exists => .exists (a.get "path")
  | .stat => .stat (a.get "path")
  | .linkStat => .stat (a.get "path")
  | .access => .access (a.get "path") (a.get "mode")
  | .readDirectory => .readDirectory (a.get "path")
  | .readFile => .read (a.get "path") (a.get "encoding")
  | .writeFile =>
    .write (if (a.get "append").isTruthy then .append else .replace) (a.get "path") (a.get "data")
  | .appendFile => .write .append (a.get "path") (a.get "data")
  | .makeDirectory => .makeDirectory (a.get "path") (a.get "recursive")
  | .copyFile => .copyFile (a.get "source") (a.get "destination")
  | .remove => .remove (a.get "path") (a.get "recursive") (a.get "force")
  | .setTimes => .setTimes (a.get "path") (timeOf r now (a.get "mtime"))
  | .setMode => .setMode (a.get "path") (a.get "mode")

/-- Why an invocation fails. -/
inductive Error
  | volume (e : Volume.Error)
  | fault (f : Fault)

def Error.label : Error → String
  | .volume e => e.label
  | .fault f => f.label

def Error.message : Error → Text
  | .volume e => e.message
  | .fault f => f.message

/-- An invocation may change a volume and may fail. -/
abbrev InvocationM := ExceptT Error (StateM Volume)

def onVolume {α : Type} (op : VolumeM α) : InvocationM α :=
  ExceptT.adapt .volume op

def run (now : Int) (op : Volume.Operation) : InvocationM Volume.Value :=
  onVolume (op.perform now)

def spelling : Argument → InvocationM Text
  | .value (.string t) => pure t
  | .value v => throw (.fault (.member v.kindName "startswith"))
  | .octets _ => throw (.fault .octetPath)
  | .foreign x => throw (.fault (.member x.kindName "startswith"))

def lookupSpelling (a : Argument) : InvocationM Text := do
  onVolume Volume.ensureOpen
  spelling a

/-- The whole number that an argument gives, once its node is found. -/
def bits (path : Text) (a : Argument) : InvocationM Int :=
  match a.integer? with
  | some n => pure n
  | none => do
    let _ ← onVolume (Volume.lookup path)
    throw (.fault (.operands "&" a.kindName "int"))

/-- The data that something of a kind stands for when it is written into a slot, with the octets that
are made of it. What is there already can only be followed by octets. -/
def dataFor (mode : Volume.WriteMode) (slot : Volume.Slot) (kind : String)
    (octets : Except Fault Bytes) : Except Fault Bytes :=
  match mode, slot.node? with
  | .append, some _ => .error (.joinedKind kind)
  | _, _ => octets

/-- Writes something of a kind that is neither text nor octets. It is turned into octets last of all. -/
def writeOther (now : Int) (mode : Volume.WriteMode) (path : Argument) (kind : String)
    (octets : Except Fault Bytes) : InvocationM Volume.Value := do
  let p ← spelling path
  let slot ← onVolume (Volume.writableSlot p)
  match dataFor mode slot kind octets with
  | .ok bs => run now (.write mode p (.octets bs))
  | .error f => throw (.fault f)

def writeAny (now : Int) (mode : Volume.WriteMode) (path : Argument) :
    Argument → InvocationM Volume.Value
  | .value (.string t) =>
    if (Utf8.encodeText? t).isNone then throw (.volume .unencodable)
    else do run now (.write mode (← spelling path) (.text t))
  | .octets bs => do run now (.write mode (← spelling path) (.octets bs))
  | .value v => writeOther now mode path v.kindName (Argument.octetsOf v)
  | .foreign x => writeOther now mode path x.kindName x.octets

/-- Reads a file as octets or as text. -/
def readAs (now : Int) (path : Argument) : Argument → InvocationM Volume.Value
  | .value .null => do run now (.read (← lookupSpelling path) none)
  | .value (.string encoding) => do
    run now (.read (← lookupSpelling path) (some encoding.toString))
  | a => do
    let _ ← onVolume (Volume.readFile (← lookupSpelling path))
    throw (.fault (.encodingKind a.kindName))

def perform (now : Int) : Invocation → InvocationM Volume.Value
  | .exists path => do run now (.exists (← lookupSpelling path))
  | .stat path => do run now (.stat (← lookupSpelling path))
  | .access path request => do
    let p ← lookupSpelling path
    run now (.access p (← bits p request))
  | .readDirectory path => do run now (.readDirectory (← lookupSpelling path))
  | .read path encoding => readAs now path encoding
  | .write mode path content => writeAny now mode path content
  | .makeDirectory path recursive => do
    if recursive.isTruthy then run now (.makeDirectory (← lookupSpelling path) true)
    else run now (.makeDirectory (← spelling path) false)
  | .copyFile source destination => do
    let data ← onVolume (Volume.readFile (← lookupSpelling source))
    run now (.write .replace (← spelling destination) (.octets data))
  | .remove path recursive force => do
    run now (.remove (← spelling path) recursive.isTruthy force.isTruthy)
  | .setTimes path mtime => do run now (.setTimes (← lookupSpelling path) mtime)
  | .setMode path mode => do
    let p ← lookupSpelling path
    run now (.setMode p (← bits p mode))

/-- Calls a method of a receiver by its name. -/
def call (r : Receiver) (now : Int) (method : String) (placed : List Argument)
    (named : Assignment) : InvocationM Volume.Value :=
  match Method.ofName? method with
  | none => throw (.fault (.member r.name method))
  | some m =>
    match Assignment.bind (m.fullName r) (m.parameters r) placed named with
    | .error f => throw (.fault f)
    | .ok a => (ofMethod r now a m).perform now

end Invocation

end MemoryShell
