import MemoryShell.Text.CodePoint

set_option autoImplicit false

namespace MemoryShell

/-- What a redirection does with what the target holds. -/
inductive RedirectionOperator
  | write
  | append
  deriving DecidableEq

def RedirectionOperator.symbol : RedirectionOperator → String
  | .write => ">"
  | .append => ">>"

def RedirectionOperator.ofSymbol? (symbol : Text) : Option RedirectionOperator :=
  [RedirectionOperator.write, .append].find? fun op => symbol = Text.ofString op.symbol

/-- Where the output of a command goes. -/
structure Redirection where
  operator : RedirectionOperator
  target : Text
  deriving DecidableEq

/-- A command line with its redirection taken off. -/
structure CommandLine where
  command : Text
  redirection : Option Redirection
  deriving DecidableEq

namespace CommandLine

/-- The sign that operators consist of. -/
abbrev sign : CodePoint := '>'

def isTarget : Text → Bool
  | [] => false
  | c :: cs => c ≠ sign && (c :: cs).all fun d => !Text.isBlank d

/-- The operator and the text after it, at a place where an operator starts. -/
def operatorAt? : Text → Option (RedirectionOperator × Text)
  | [] => none
  | c :: cs =>
    if c ≠ sign then none
    else if cs.head? = some sign then some (.append, cs.tail)
    else some (.write, cs)

/-- The redirection that the text from here to the end spells. -/
def redirectionAt? (t : Text) : Option (RedirectionOperator × Text) :=
  match operatorAt? t with
  | none => none
  | some (op, rest) =>
    if isTarget (Text.stripLeft rest) then some (op, Text.stripLeft rest) else none

/-- The text before the leftmost redirection, and the redirection. -/
def split? : Text → Option (Text × RedirectionOperator × Text)
  | [] => none
  | c :: cs =>
    match redirectionAt? (c :: cs) with
    | some (op, target) => some ([], op, target)
    | none => (split? cs).map fun r => (c :: r.1, r.2)

def dropNewline (t : Text) : Text :=
  if t.getLast? = some Text.newline then t.dropLast else t

def parse (line : Text) : CommandLine :=
  match split? (dropNewline line) with
  | some (before, op, target) => ⟨Text.strip before, some ⟨op, target⟩⟩
  | none => ⟨Text.strip line, none⟩

def isBlankLine (line : Text) : Bool :=
  line.all Text.isBlank

end CommandLine

end MemoryShell
