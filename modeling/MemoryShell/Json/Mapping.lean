import MemoryShell.Fault
import MemoryShell.Json.Key

set_option autoImplicit false

namespace MemoryShell

abbrev Mapping := Keyed Json

namespace Mapping

/-- The items of a value that is a sequence; an object is the sequence of its keys. -/
def items? : Json → Option (List Json)
  | .string t => some (t.map fun c => .string [c])
  | .array items => some items
  | .object fields => some (fields.map fun f => .string f.1)
  | _ => none

/-- The mapping with the pairs that follow, the first of which has this index. -/
def extend : Mapping → Nat → List Json → Except Fault Mapping
  | m, _, [] => .ok m
  | m, index, entry :: rest =>
    match items? entry with
    | none => .error (.entryKind index)
    | some [key, value] =>
      if Keyed.isKey key then extend (Keyed.insert m key value) (index + 1) rest
      else .error (.unhashable key.kindName)
    | some items => .error (.entryLength index items.length)

def ofJson : Json → Except Fault Mapping
  | .object fields => .ok (fields.map fun f => (.string f.1, f.2))
  | v =>
    match items? v with
    | none => .error (.iteration v.kindName)
    | some entries => extend [] 0 entries

end Mapping

end MemoryShell
