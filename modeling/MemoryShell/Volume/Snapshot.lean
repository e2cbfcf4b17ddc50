import MemoryShell.Json.Octets
import MemoryShell.Json.Printer
import MemoryShell.Volume.Basic

set_option autoImplicit false

namespace MemoryShell.Snapshot

inductive Error
  | json (e : Json.Error)
  | octets
  | notObject
  | badPath (key : Text)
  | badContent (key : Text)
  | volume (e : Volume.Error)
  deriving DecidableEq

def Error.label : Error → String
  | .json .malformed => "JSONDecodeError"
  | .json (.longInteger _) => "ValueError"
  | .json .tooDeep => "RecursionError"
  | .octets => "UnicodeDecodeError"
  | .notObject => "ValueError"
  | .badPath _ => "ValueError"
  | .badContent _ => "ValueError"
  | .volume e => e.label

def Error.message : Error → Text
  | .json .malformed => "malformed JSON"
  | .json (.longInteger digits) => Json.longIntegerMessage digits
  | .json .tooDeep => "maximum recursion depth exceeded"
  | .octets => "invalid octets"
  | .notObject => "volume 快照必須是 JSON 物件"
  | .badPath key => ↑("快照中的路徑無效: " ++ Literal.ofText key)
  | .badContent key => "快照中的內容無效: " ++ key
  | .volume e => e.message

/-- What a snapshot says about a node at a path: nothing about the root or a filled directory. -/
def entry? : Path × Node → Option (Text × Json)
  | (p, .file _ data) => some (p.text, .string (Utf8.decodeText data))
  | ([], .directory _ _) => none
  | (p, .directory _ []) => some (p.text, .null)
  | (_, .directory _ (_ :: _)) => none

def entries (root : Node) : List (Text × Json) :=
  root.nodes.filterMap entry?

def ofVolume (levels : Nat) (v : Volume) : Except Volume.Error Json :=
  if v.released then .error .released
  else if levels < v.root.height then .error .tooDeep
  else .ok (.object (entries v.root))

def writeWithin (levels : Nat) (v : Volume) : Except Volume.Error String :=
  (ofVolume levels v).map Json.print

/-- The levels that a walk has room for. A walk makes a call for each level, and a thousand calls may
be under way at once; this is what the callers of a walk usually leave of these. -/
def levelLimit : Nat := 980

def write (v : Volume) : Except Volume.Error String :=
  writeWithin levelLimit v

/-- Makes what one entry says. -/
def loadEntry (now : Int) (key : Text) (content : Json) : ExceptT Error (StateM Volume) Unit :=
  match Path.parse? key with
  | none => throw (.badPath key)
  | some p =>
    match content with
    | .null => ExceptT.adapt .volume (Volume.makeDirectories now key)
    | .string t => ExceptT.adapt .volume do
      Volume.makeDirectories now (Path.text p.dropLast)
      Volume.writeText now .replace key t
    | _ => throw (.badContent key)

def loadEntries (now : Int) : List (Text × Json) → ExceptT Error (StateM Volume) Unit
  | [] => pure ()
  | (key, content) :: rest => do
    loadEntry now key content
    loadEntries now rest

/-- The volume that a JSON value describes, all of it made now. -/
def toVolume (now : Int) : Json → Except Error Volume
  | .object fields =>
    match (loadEntries now fields).run.run (Volume.empty now) with
    | (.ok _, v) => .ok v
    | (.error e, _) => .error e
  | _ => .error .notObject

def read (now : Int) (t : Text) : Except Error Volume :=
  match Json.parseText t with
  | .ok v => toVolume now v
  | .error e => .error (.json e)

def readOctets (now : Int) (bs : Bytes) : Except Error Volume :=
  match Json.textOfOctets? bs with
  | some t => read now t
  | none => .error .octets

end MemoryShell.Snapshot
