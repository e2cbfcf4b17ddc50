import MemoryShell.Source.Recognizer

/-!
From tokens to a module. Decorators in front are read by themselves, and then what they decorate. Tokens
are read once, and if they cannot be, once more for what is wrong. A fault in the characters that nothing
has come upon comes before what has been found, and so does a bracket that is never closed and was opened in
an earlier line.
-/

set_option autoImplicit false

namespace MemoryShell.Source

open Recognizer

/-- What is wrong with tokens that spell no module. -/
def diagnosis (ts : Tokens) : Diagnosis :=
  match read ts false 0 with
  | .failed f => diagnoseFault ts f
  | .found _ first => diagnoseToken ts first.furthest first.furthest
  | .missed first => diagnoseAgain ts first (read ts true first.furthest)

/-- The tokens from a place on. -/
def Tokens.from (ts : Tokens) (place : Nat) : Tokens :=
  { ts with tokens := (ts.tokens.toList.drop place).toArray }

def Tokens.isDecorated (ts : Tokens) : Bool :=
  ts.tokens[0]?.any (isMark "@")

/-- Whether tokens start with something that can be decorated. -/
def Tokens.isDefinition (ts : Tokens) : Bool :=
  match ts.tokens.toList with
  | a :: b :: _ => isMark "def" a || isMark "class" a || (isMark "async" a && isMark "def" b)
  | _ => false

/-- The decorators in front and the tokens behind them, where these can be decorated. -/
def undecorate (ts : Tokens) : Option (List Tree × Tokens) :=
  if ts.isDecorated then
    match rule ts (room ts.tokens.size) .decorators ⟨0, 0, false, ∅⟩ with
    | .found v s => if (ts.from s.place).isDefinition then some (v.trees, ts.from s.place) else none
    | _ => none
  else some ([], ts)

/-- Trees with decorators on the first one. -/
def decorateFirst (front : List Tree) : List Tree → List Tree
  | [] => []
  | t :: ts => Grammar.decorate front t :: ts

/-- The module that tokens spell. -/
def moduleOf (ts : Tokens) : Except Diagnosis (List Tree) :=
  match undecorate ts with
  | none => .error (diagnosis ts)
  | some (front, rest) =>
    match read rest false 0 with
    | .found v _ => .ok (decorateFirst front v.trees)
    | _ => .error (diagnosis ts)

end MemoryShell.Source
