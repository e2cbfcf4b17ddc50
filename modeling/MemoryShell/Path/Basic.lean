import MemoryShell.Text.CodePoint

set_option autoImplicit false

namespace MemoryShell

def slash : CodePoint := .ofChar '/'

def dot : Text := [.ofChar '.']

def dotDot : Text := [.ofChar '.', .ofChar '.']

def isName (t : Text) : Bool :=
  t ≠ [] && !t.contains slash && t ≠ dot && t ≠ dotDot

/-- The name of an entry of a directory. -/
structure Name where
  text : Text
  valid : isName text = true
  deriving DecidableEq

def Name.before (a b : Name) : Bool :=
  Text.before a.text b.text

/-- The names from the root down. -/
abbrev Path := List Name

namespace Path

def pieces (t : Text) : List Text :=
  t.split slash

def enter (p : Path) (piece : Text) : Path :=
  if h : isName piece = true then p ++ [⟨piece, h⟩]
  else if piece = dotDot then p.dropLast
  else p

def ofPieces (ps : List Text) : Path :=
  ps.foldl enter []

def isAbsolute (t : Text) : Bool :=
  t.head? = some slash

def parse? (t : Text) : Option Path :=
  if isAbsolute t then some (ofPieces (pieces t)) else none

def text : Path → Text
  | [] => [slash]
  | p => p.flatMap fun n => slash :: n.text

def base (p : Path) : Text :=
  match p.getLast? with
  | none => []
  | some n => n.text

def join (directory spelling : Text) : Text :=
  if isAbsolute spelling then spelling
  else if directory = [] || directory.getLast? = some slash then directory ++ spelling
  else directory ++ slash :: spelling

def resolve? (directory spelling : Text) : Option Path :=
  parse? (join directory spelling)

end Path

end MemoryShell
