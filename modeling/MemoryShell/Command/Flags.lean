import MemoryShell.Message

set_option autoImplicit false

namespace MemoryShell

/-- The flag letters that were given, in order, and the operands. -/
structure Flags where
  letters : Text
  operands : List Text
  deriving DecidableEq

namespace Flags

def has (f : Flags) (letter : CodePoint) : Bool :=
  f.letters.contains letter

def sortedLetters (f : Flags) : Text :=
  f.letters.eraseDups.mergeSort fun a b => decide (a.val ≤ b.val)

abbrev dash : CodePoint := '-'

/-- Two dashes, which end the clusters. -/
abbrev ending : Text := [dash, dash]

def cluster? : Text → Option Text
  | d :: c :: cs => if d = dash then some (c :: cs) else none
  | _ => none

/-- The flags and operands of a list of arguments, or the first letter that is not allowed. -/
def parse (allowed : Text) : List Text → Except CodePoint Flags
  | [] => .ok ⟨[], []⟩
  | arg :: args =>
    match cluster? arg with
    | none => (parse allowed args).map fun f => { f with operands := arg :: f.operands }
    | some letters =>
      if letters = [dash] then .ok ⟨[], args⟩
      else
        match letters.find? fun c => !allowed.contains c with
        | some c => .error c
        | none => (parse allowed args).map fun f => { f with letters := letters ++ f.letters }

end Flags

end MemoryShell
