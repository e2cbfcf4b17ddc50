import MemoryShell.Number.Binary64
import MemoryShell.OrderedMap
import MemoryShell.Text.CodePoint

set_option autoImplicit false

namespace MemoryShell

inductive Json
  | null
  | bool (b : Bool)
  | integer (n : Int)
  | real (x : Binary64)
  | string (t : Text)
  | array (items : List Json)
  | object (fields : List (Text × Json))

namespace Json

instance : Inhabited Json := ⟨.null⟩

def field? (key : String) : Json → Option Json
  | .object fields => OrderedMap.find? fields (Text.ofString key)
  | _ => none

def ofString (s : String) : Json :=
  .string (Text.ofString s)

def text? : Json → Option Text
  | .string t => some t
  | _ => none

def string? (v : Json) : Option String :=
  v.text?.bind Text.string?

/-- An empty or zero value counts as false. -/
def isTruthy : Json → Bool
  | .null => false
  | .bool b => b
  | .integer n => n ≠ 0
  | .real (.finite _ m _) => m ≠ 0
  | .real _ => true
  | .string t => !t.isEmpty
  | .array items => !items.isEmpty
  | .object fields => !fields.isEmpty

end Json

end MemoryShell
