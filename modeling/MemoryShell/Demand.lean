import MemoryShell.Fault
import MemoryShell.Json.Display

set_option autoImplicit false

namespace MemoryShell.Demand

def text (fault : String → Fault) : Json → Except Fault Text
  | .string t => .ok t
  | v => .error (fault v.kindName)

def spelling : Json → Except Fault Text :=
  text fun kind => .member kind "startswith"

def pathPart : Json → Except Fault Text :=
  text .pathPart

def line : Json → Except Fault Text :=
  text .pattern

def command : Json → Except Fault Text :=
  text fun kind => .member kind "read"

def name : Json → Except Fault Text :=
  text fun kind => .member kind "lower"

def snapshot : Json → Except Fault Text :=
  text .jsonKind

/-- A URL. What counts as false would pass for octets without any in them, whose path cannot be
stripped of a text. -/
def url : Json → Except Fault Text
  | .string t => .ok t
  | v => .error (if v.isTruthy then .member v.kindName "decode" else .octetsNeeded "str")

def key : Json → Except Fault Json
  | .array items => .error (.unhashable (Json.array items).kindName)
  | .object fields => .error (.unhashable (Json.object fields).kindName)
  | v => .ok v

def texts : Nat → List Json → Except Fault (List Text)
  | _, [] => .ok []
  | index, .string t :: rest => (texts (index + 1) rest).map fun ts => t :: ts
  | index, v :: _ => .error (.joinedItem index v.kindName)

end MemoryShell.Demand
