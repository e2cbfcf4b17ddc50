import MemoryShell.Command.Flags
import MemoryShell.Failure

set_option autoImplicit false

namespace MemoryShell

/-- The letters that were given, each once and in order, and the operands as they were given. -/
structure SortedFlags where
  letters : Text
  operands : List Json

namespace SortedFlags

def letter? : Json → Option CodePoint
  | .string [c] => some c
  | _ => none

def allowedBy (allowed : Json) : Text :=
  ((Mapping.items? allowed).getD []).filterMap letter?

def refusal (allowed : Json) (c : CodePoint) : Failure :=
  match Mapping.items? allowed with
  | some _ => .shell .invalidOperator (.string (Message.invalidOperator [c]))
  | none => .fault (.membership allowed.kindName)

/-- The texts at the front of a list of values, and what follows them. -/
def leadingTexts : List Json → List Text × List Json
  | .string t :: rest =>
    let (texts, others) := leadingTexts rest
    (t :: texts, others)
  | others => ([], others)

/-- The flags and operands of a list of values. -/
def ofItems (allowed : Json) (items : List Json) : Except Failure SortedFlags :=
  let (texts, others) := leadingTexts items
  match Flags.parse (allowedBy allowed) texts, others with
  | .error c, _ => .error (refusal allowed c)
  | .ok f, [] => .ok ⟨f.sortedLetters, f.operands.map Json.string⟩
  | .ok f, v :: _ =>
    if texts.contains Flags.ending then .ok ⟨f.sortedLetters, f.operands.map Json.string ++ others⟩
    else .error (.fault (.member v.kindName "startswith"))

def ofValue (allowed args : Json) : Except Failure SortedFlags :=
  match Mapping.items? args with
  | some items => ofItems allowed items
  | none => .error (.fault (.iteration args.kindName))

end SortedFlags

end MemoryShell
