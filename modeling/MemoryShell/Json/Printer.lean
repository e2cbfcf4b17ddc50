import MemoryShell.Json.Value
import MemoryShell.Number.Shortest
import MemoryShell.Text.Decimal
import MemoryShell.Text.Literal

set_option autoImplicit false

namespace MemoryShell.Json

def unicodeEscape (n : Nat) : List Char :=
  '\\' :: 'u' :: Literal.hex 4 n

/-- A code point inside a string. -/
def renderPoint (c : CodePoint) : List Char :=
  if c = .ofChar '"' then ['\\', '"']
  else if c = .ofChar '\\' then ['\\', '\\']
  else if c = .ofChar '\n' then ['\\', 'n']
  else if c = .ofChar '\r' then ['\\', 'r']
  else if c = .ofChar '\t' then ['\\', 't']
  else if c = .ofChar '\x08' then ['\\', 'b']
  else if c = .ofChar '\x0c' then ['\\', 'f']
  else if 0x20 ≤ c.val ∧ c.val < 0x7F then [c.toChar]
  else if c.val < 0x10000 then unicodeEscape c.val
  else
    unicodeEscape (0xD800 + (c.val - 0x10000) / 0x400) ++
      unicodeEscape (0xDC00 + (c.val - 0x10000) % 0x400)

def renderText (t : Text) : List Char :=
  '"' :: t.flatMap renderPoint ++ ['"']

mutual

/-- A value in ASCII. -/
def render : Json → List Char
  | .null => ['n', 'u', 'l', 'l']
  | .bool true => ['t', 'r', 'u', 'e']
  | .bool false => ['f', 'a', 'l', 's', 'e']
  | .integer n => Text.writeInt n
  | .real x => x.text "NaN" "Infinity"
  | .string t => renderText t
  | .array [] => ['[', ']']
  | .array (x :: xs) => '[' :: (render x ++ (renderItems xs ++ [']']))
  | .object [] => ['{', '}']
  | .object ((k, x) :: fs) =>
    '{' :: (renderText k ++ (':' :: ' ' :: (render x ++ (renderFields fs ++ ['}']))))

def renderItems : List Json → List Char
  | [] => []
  | x :: xs => ',' :: ' ' :: (render x ++ renderItems xs)

def renderFields : List (Text × Json) → List Char
  | [] => []
  | (k, x) :: fs => ',' :: ' ' :: (renderText k ++ (':' :: ' ' :: (render x ++ renderFields fs)))

end

def print (v : Json) : String :=
  String.ofList (render v)

end MemoryShell.Json
