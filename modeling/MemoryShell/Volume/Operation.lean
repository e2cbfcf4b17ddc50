import MemoryShell.Json.Display
import MemoryShell.Volume.Basic

set_option autoImplicit false

namespace MemoryShell.Volume

/-- What is written into a file. -/
inductive Content
  | text (t : Text)
  | octets (bs : Bytes)

inductive Operation
  | exists (path : Text)
  | stat (path : Text)
  | access (path : Text) (request : Int)
  | readDirectory (path : Text)
  | read (path : Text) (encoding : Option String)
  | write (mode : WriteMode) (path : Text) (content : Content)
  | makeDirectory (path : Text) (recursive : Bool)
  | copyFile (source destination : Text)
  | remove (path : Text) (recursive force : Bool)
  | setTimes (path : Text) (mtime : Json)
  | setMode (path : Text) (mode : Int)

/-- What an operation answers. -/
inductive Value
  | nothing
  | flag (b : Bool)
  | stat (s : Stat)
  | names (ns : List Name)
  | text (s : String)
  | octets (bs : Bytes)

/-- A value as a script prints it; facts about a node are shown as a list. -/
def Value.display : Value → Text
  | .nothing => Json.null.display
  | .flag b => (Json.bool b).display
  | .stat s =>
    (Json.array [.string s.path, .ofString s.kind.word, .integer s.size, .integer s.mode,
      s.mtime, .integer s.ctime]).display
  | .names ns => (Json.array (ns.map fun n => .string n.text)).display
  | .text s => s
  | .octets bs => Literal.ofBytes bs

def writeContent (now : Int) (mode : WriteMode) (path : Text) : Content → VolumeM Unit
  | .text t => writeText now mode path t
  | .octets bs => writeFile now mode path bs

def silent (op : VolumeM Unit) : VolumeM Value := do
  op
  pure .nothing

/-- Does an operation now. -/
def Operation.perform (now : Int) : Operation → VolumeM Value
  | .exists path => .flag <$> exists? path
  | .stat path => .stat <$> Volume.stat path
  | .access path request => silent (Volume.access path request)
  | .readDirectory path => .names <$> Volume.readDirectory path
  | .read path none => .octets <$> Volume.readFile path
  | .read path (some encoding) => .text <$> readText path encoding
  | .write mode path content => silent (writeContent now mode path content)
  | .makeDirectory path false => silent (Volume.makeDirectory now path)
  | .makeDirectory path true => silent (makeDirectories now path)
  | .copyFile source destination => silent (Volume.copyFile now source destination)
  | .remove path recursive force => silent (Volume.remove now path recursive force)
  | .setTimes path mtime => silent (Volume.setTimes path mtime)
  | .setMode path mode => silent (Volume.setMode path mode)

end MemoryShell.Volume
