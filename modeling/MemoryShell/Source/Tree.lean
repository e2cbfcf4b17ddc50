import MemoryShell.Json.Value
import MemoryShell.Source.Malformation

/-!
Syntax trees. A node has a form and parts in a fixed order, and each part plays a role in what it
belongs to. Names and attributes are what a source can be refused for, so their forms hold them;
of other expressions only the kind counts.
-/

set_option autoImplicit false

namespace MemoryShell.Source

/-- The role of a part in what it belongs to. -/
inductive Role
  | plain
  | body
  | decorator
  | argument
  | keyword
  deriving DecidableEq

/-- A constant: a value, octets, an imaginary number or an ellipsis. -/
inductive Constant
  | value (v : Json)
  | octets (b : Bytes)
  | imaginary (x : Binary64)
  | ellipsis

/-- The form of a node. A membership test is a comparison that starts with one. A formatted text can be
written unless what stands in its braces needs a backslash. -/
inductive Form
  | name (id : String)
  | attribute (id : String)
  | call
  | constant (c : Constant)
  | membership
  | formatted (isWritable : Bool)
  | compound (k : Kind)
  | function (name : String)
  | asyncFunction (name : String)
  | classDef (name : String)
  | expression
  | assign
  | ret
  | pass
  | statement
  | part

inductive Tree
  | node (role : Role) (form : Form) (parts : List Tree)

def Constant.kind : Constant → Kind
  | .value .null => .constant "None"
  | .value (.bool true) => .constant "True"
  | .value (.bool false) => .constant "False"
  | .value _ => .literal
  | .octets _ => .literal
  | .imaginary _ => .literal
  | .ellipsis => .ellipsis

def Form.kind : Form → Kind
  | .name _ => .name
  | .attribute _ => .attribute
  | .call => .call
  | .constant c => c.kind
  | .membership => .comparison
  | .formatted _ => .formatted
  | .compound k => k
  | _ => .operation

namespace Tree

instance : Inhabited Tree := ⟨.node .plain .pass []⟩

def role : Tree → Role
  | .node role _ _ => role

def form : Tree → Form
  | .node _ form _ => form

def parts : Tree → List Tree
  | .node _ _ parts => parts

def partsAs (t : Tree) (role : Role) : List Tree :=
  t.parts.filter fun part => part.role = role

def as (role : Role) : Tree → Tree
  | .node _ form parts => .node role form parts

def make (form : Form) (parts : List Tree) : Tree :=
  .node .plain form parts

def kind (t : Tree) : Kind :=
  t.form.kind

def undecorated : Tree → Tree
  | .node role form parts => .node role form (parts.filter fun part => part.role ≠ .decorator)

def beside {α : Type} : List (List α) → List (List α) → List (List α)
  | [], ls => ls
  | ls, [] => ls
  | a :: as, b :: bs => (a ++ b) :: beside as bs

mutual

def levels : Tree → List (List Form)
  | .node _ form parts => [form] :: levelsAll parts

def levelsAll : List Tree → List (List Form)
  | [] => []
  | t :: ts => beside t.levels (levelsAll ts)

end

def breadthFirst (t : Tree) : List Form :=
  t.levels.flatten

/-- What an expression is to be the target of. -/
inductive Use
  | assignment
  | loop
  | deletion
  deriving DecidableEq

mutual

/-- The kind of the first expression in a target that cannot be one. Where a loop is read as one
expression, the target is what is tested for membership. -/
def unassignable? (use : Use) : Tree → Option Kind
  | .node _ (.name _) _ => none
  | .node _ (.attribute _) _ => none
  | .node _ (.compound .subscript) _ => none
  | .node _ (.compound .list) parts => unassignableIn? use parts
  | .node _ (.compound .tuple) parts => unassignableIn? use parts
  | .node _ (.compound .starred) parts =>
    if use = .deletion then some .starred else unassignableIn? use parts
  | .node _ (.compound .comparison) _ => if use = .loop then none else some .comparison
  | .node _ .membership parts =>
    if use = .loop then unassignableFirst? use parts else some .comparison
  | .node _ form _ => some form.kind

/-- The kind of the first expression that cannot be a target among several ones. -/
def unassignableIn? (use : Use) : List Tree → Option Kind
  | [] => none
  | t :: ts =>
    match t.unassignable? use with
    | some k => some k
    | none => unassignableIn? use ts

def unassignableFirst? (use : Use) : List Tree → Option Kind
  | [] => none
  | t :: _ => t.unassignable? use

end

end Tree

end MemoryShell.Source
