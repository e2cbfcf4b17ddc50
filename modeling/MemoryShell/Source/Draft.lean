import MemoryShell.Json.Display

/-!
Sources yet to be written. A draft is a tree whose names may be spelled in any way, and its text is
what the tree looks like, whatever it reads as. A definition after the first line follows a blank
line; a text at the start of a body is written over several lines between triple quotes. Writing
keeps frames for each part that it is in the midst of, and there is room for so many only.
-/

set_option autoImplicit false

namespace MemoryShell.Source.Draft

inductive Expr
  | name (spelling : String)
  | attribute (owner : Expr) (spelling : String)
  | call (callee : Expr) (args : List Expr)
  | constant (value : Json)

/-- A statement. A function has one parameter. -/
inductive Stmt
  | function (spelling : String) (body : List Stmt) (decorators : List Expr)
  | asyncFunction (spelling : String) (body : List Stmt) (decorators : List Expr)
  | classDef (spelling : String) (bases : List Expr) (body : List Stmt) (decorators : List Expr)
  | expression (value : Expr)
  | assign (target value : Expr)
  | ret (value : Expr)
  | pass

def writeConstant : Json → List Char
  | .real x => x.text "(1e309-1e309)" "1e309"
  | v => v.literal.toList

def gap : Expr → List Char
  | .constant (.integer _) => [' ']
  | .constant (.bool _) => [' ']
  | _ => []

mutual

def Expr.write : Expr → List Char
  | .name spelling => spelling.toList
  | .attribute owner spelling => owner.write ++ gap owner ++ '.' :: spelling.toList
  | .call callee args => callee.write ++ '(' :: Expr.writeAll args ++ [')']
  | .constant value => writeConstant value

def Expr.writeAll : List Expr → List Char
  | [] => []
  | [e] => e.write
  | e :: es => e.write ++ ',' :: ' ' :: Expr.writeAll es

end

/-- The text that describes a definition. -/
def writeDescription (t : Text) : List Char :=
  Literal.sparing [['"', '"', '"'], ['\'', '\'', '\'']] t

def line (depth : Nat) (cs : List Char) : List Char :=
  List.replicate (4 * depth) ' ' ++ cs

def decoratorLines (depth : Nat) (decorators : List Expr) : List (List Char) :=
  decorators.map fun e => line depth ('@' :: e.write)

def functionHead (opener spelling : String) : List Char :=
  opener.toList ++ spelling.toList ++ "(params):".toList

def classHead (spelling : String) (bases : List Expr) : List Char :=
  "class ".toList ++ spelling.toList
    ++ (if bases.isEmpty then [] else '(' :: Expr.writeAll bases ++ [')']) ++ [':']

def describing? (depth : Nat) : List Stmt → Option (List Char)
  | .expression (.constant (.string t)) :: _ => some (line depth (writeDescription t))
  | _ => none

def describe (depth : Nat) (body : List Stmt) (lines : List (List Char)) : List (List Char) :=
  match describing? depth body with
  | some first => first :: lines.drop 1
  | none => lines

mutual

def Stmt.lines (depth : Nat) : Stmt → List (List Char)
  | .function spelling body decorators =>
    [] :: decoratorLines depth decorators ++ line depth (functionHead "def " spelling)
      :: describe (depth + 1) body (Stmt.linesAll (depth + 1) body)
  | .asyncFunction spelling body decorators =>
    [] :: decoratorLines depth decorators ++ line depth (functionHead "async def " spelling)
      :: describe (depth + 1) body (Stmt.linesAll (depth + 1) body)
  | .classDef spelling bases body decorators =>
    [] :: decoratorLines depth decorators ++ line depth (classHead spelling bases)
      :: describe (depth + 1) body (Stmt.linesAll (depth + 1) body)
  | .expression value => [line depth value.write]
  | .assign target value => [line depth (target.write ++ ' ' :: '=' :: ' ' :: value.write)]
  | .ret value => [line depth ("return ".toList ++ value.write)]
  | .pass => [line depth "pass".toList]

def Stmt.linesAll (depth : Nat) : List Stmt → List (List Char)
  | [] => []
  | s :: ss => s.lines depth ++ Stmt.linesAll depth ss

end

def writeModule (module : List Stmt) : List Char :=
  let lines := describe 0 module (Stmt.linesAll 0 module)
  List.intercalate ['\n'] (if lines.head? = some [] then lines.drop 1 else lines)

/-! ## Depth -/

mutual

/-- How many frames it takes to write an expression. -/
def Expr.frames : Expr → Nat
  | .name _ => 1
  | .attribute owner _ => owner.frames + 3
  | .call callee args => max callee.frames (Expr.framesAll args) + 3
  | .constant _ => 2

def Expr.framesAll : List Expr → Nat
  | [] => 0
  | e :: es => max e.frames (Expr.framesAll es)

end

def Stmt.isDescription : Stmt → Bool
  | .expression (.constant (.string _)) => true
  | _ => false

mutual

/-- How many frames it takes to write a statement. -/
def Stmt.frames : Stmt → Nat
  | .function _ body decorators =>
    max 8 (max (Stmt.framesWithin body + 6) (Expr.framesAll decorators + 4))
  | .asyncFunction _ body decorators =>
    max 8 (max (Stmt.framesWithin body + 6) (Expr.framesAll decorators + 4))
  | .classDef _ bases body decorators =>
    max 5 (max (Stmt.framesWithin body + 5)
      (max (Expr.framesAll bases) (Expr.framesAll decorators) + 3))
  | .expression value => value.frames + 3
  | .assign target value => max target.frames value.frames + 3
  | .ret value => value.frames + 3
  | .pass => 3

def Stmt.framesAll : List Stmt → Nat
  | [] => 0
  | s :: ss => max s.frames (Stmt.framesAll ss)

def Stmt.framesWithin : List Stmt → Nat
  | [] => 0
  | s :: ss => max (if s.isDescription then 0 else s.frames) (Stmt.framesAll ss)

end

def room : Nat := 984

def isTooDeep (module : List Stmt) : Bool :=
  room < Stmt.framesAll module

end MemoryShell.Source.Draft
