import MemoryShell.Json.Value
import MemoryShell.Number.Shortest
import MemoryShell.Text.Decimal
import MemoryShell.Text.Literal

set_option autoImplicit false

namespace MemoryShell.Json

mutual

/-- A value as it appears inside another one. -/
def literal : Json → String
  | .null => "None"
  | .bool true => "True"
  | .bool false => "False"
  | .integer n => Text.ofInt n
  | .real x => String.ofList (x.text "nan" "inf")
  | .string t => Literal.ofText t
  | .array [] => "[]"
  | .array (x :: xs) => "[" ++ literal x ++ literalItems xs ++ "]"
  | .object [] => "\x7b\x7d"
  | .object ((k, x) :: fs) =>
    "\x7b" ++ Literal.ofText k ++ ": " ++ literal x ++ literalFields fs ++ "\x7d"

def literalItems : List Json → String
  | [] => ""
  | x :: xs => ", " ++ literal x ++ literalItems xs

def literalFields : List (Text × Json) → String
  | [] => ""
  | (k, x) :: fs => ", " ++ Literal.ofText k ++ ": " ++ literal x ++ literalFields fs

end

def display : Json → Text
  | .string t => t
  | v => literal v

def kindName : Json → String
  | .null => "NoneType"
  | .bool _ => "bool"
  | .integer _ => "int"
  | .real _ => "float"
  | .string _ => "str"
  | .array _ => "list"
  | .object _ => "dict"

end MemoryShell.Json
