import MemoryShell.Source.Malformation
import MemoryShell.Text.Identifier
import MemoryShell.Text.NormalForm

set_option autoImplicit false

namespace MemoryShell.Source

/-- What a token is. A mark is a reserved word, an operator or a bracket. -/
inductive TokenKind
  | name
  | number
  | quoted
  | mark
  | lineEnd
  | indent
  | unindent
  | ending
  deriving DecidableEq

/-- A token, with the line that it starts in and the number of brackets open after it. -/
structure Token where
  kind : TokenKind
  text : String
  line : Nat
  depth : Nat
  deriving DecidableEq

instance : Inhabited Token := ⟨⟨.ending, "", 0, 0⟩⟩

def reservedWords : List String := [
  "False", "None", "True", "and", "as", "assert", "async", "await", "break", "class", "continue",
  "def", "del", "elif", "else", "except", "finally", "for", "from", "global", "if", "import", "in",
  "is", "lambda", "nonlocal", "not", "or", "pass", "raise", "return", "try", "while", "with",
  "yield"]

def softWords : List String :=
  ["_", "case", "match"]

def TokenKind.ofWord (word : String) : TokenKind :=
  if reservedWords.contains word then .mark else .name

/-- A token with its name in normal form, where it may turn out to be a reserved word. -/
def Token.settled (t : Token) : Token :=
  match t.kind with
  | .name =>
    let text := Text.normalForm t.text
    { t with kind := .ofWord text, text }
  | _ => t

/-- Where tokens end other than at the end of the text. Some faults are found whatever is read
before them, others only where they are come upon; brackets may be open there. -/
structure Stop where
  fault : Malformation
  isFinal : Bool
  opening? : Option (Char × Nat)
  deriving DecidableEq

/-- The tokens of a text. -/
structure Tokens where
  tokens : Array Token
  stop? : Option Stop
  deriving DecidableEq

end MemoryShell.Source
