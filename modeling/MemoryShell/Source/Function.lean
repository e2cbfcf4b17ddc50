import MemoryShell.Source.Tree

set_option autoImplicit false

namespace MemoryShell.Source

def blockedAttributes : List String := [
  "ag_code", "ag_frame", "cr_code", "cr_frame", "f_back", "f_builtins", "f_code", "f_globals",
  "f_locals", "format", "format_map", "gi_code", "gi_frame", "tb_frame", "tb_next"]

inductive Error
  | anonymous
  | unavailable (shown : String)
  | nullCharacter
  | malformed (m : Malformation)
  | notOneFunction
  | attribute (id : String)
  | name (id : String)
  | tooDeep
  | longNumber
  | backslash
  deriving DecidableEq

def Error.label : Error → String
  | .tooDeep => "RecursionError"
  | _ => "ValueError"

def Error.message : Error → String
  | .anonymous => "沙箱不支援 lambda，請使用 def 定義函數"
  | .unavailable shown => "無法取得函數原始碼: " ++ shown
  | .nullCharacter => "source code string cannot contain null bytes"
  | .malformed m => "函數原始碼語法錯誤: " ++ m.reason
  | .notOneFunction => "原始碼必須剛好定義一個函數"
  | .attribute id => "沙箱不允許存取屬性: " ++ id
  | .name id => "沙箱不允許使用名稱: " ++ id
  | .tooDeep => "maximum recursion depth exceeded"
  | .longNumber =>
    "Exceeds the limit (4300 digits) for integer string conversion; "
      ++ "use sys.set_int_max_str_digits() to increase the limit"
  | .backslash => "Unable to avoid backslash in f-string expression part"

def isBlockedAttribute (id : String) : Bool :=
  id.toList.head? = some '_' || blockedAttributes.contains id

def isBlockedName (id : String) : Bool :=
  ['_', '_'].isPrefixOf id.toList

def Form.offence? : Form → Option Error
  | .name id => if isBlockedName id then some (.name id) else none
  | .attribute id => if isBlockedAttribute id then some (.attribute id) else none
  | _ => none

/-! ## Writing -/

/-- How many frames it takes to write a node beside its parts. -/
def Form.ownFrames : Form → Nat
  | .constant _ => 2
  | .function _ => 6
  | .asyncFunction _ => 6
  | .classDef _ => 5
  | .expression => 3
  | .assign => 3
  | .ret => 3
  | .pass => 3
  | .statement => 3
  | _ => 1

/-- How many frames it takes to come from a node to a part. Forms that none of the drafts have count with
the fewest that any of them takes. -/
def Form.stepFrames : Form → Role → Nat
  | .function _, .body => 6
  | .function _, _ => 4
  | .asyncFunction _, .body => 6
  | .asyncFunction _, _ => 4
  | .classDef _, .body => 5
  | .statement, .body => 4
  | .part, .body => 4
  | _, _ => 3

/-- Whether a form is one with a description, which is written beside the rest of a body. -/
def Form.isDescribed : Form → Bool
  | .function _ => true
  | .asyncFunction _ => true
  | .classDef _ => true
  | _ => false

def Tree.isDescription : Tree → Bool
  | .node .body .expression [.node _ (.constant (.value (.string _))) _] => true
  | _ => false

mutual

/-- How many frames it takes to write a tree. -/
def Tree.frames : Tree → Nat
  | .node _ form parts => max form.ownFrames (Tree.framesAll form form.isDescribed parts)

/-- How many frames it takes to write the deepest of several parts, the first of a body perhaps being a
description. -/
def Tree.framesAll (form : Form) (isFirst : Bool) : List Tree → Nat
  | [] => 0
  | t :: ts =>
    max (if isFirst && t.isDescription then 0 else t.frames + form.stepFrames t.role)
      (Tree.framesAll form (isFirst && t.role ≠ .body) ts)

end

/-- The least whole number with too many digits to be written. -/
def leastLong : Nat :=
  Nat.pow 10 Json.digitLimit

/-- Why a form cannot be written: a whole number has too many digits, or a formatted text needs a backslash
where there may be none. -/
def Form.writingFault? : Form → Option Error
  | .constant (.value (.integer n)) => if leastLong ≤ n.natAbs then some .longNumber else none
  | .formatted false => some .backslash
  | _ => none

/-- Why a tree cannot be written where there is room for so many frames. -/
def Tree.writingFault? (room : Nat) (t : Tree) : Option Error :=
  if room < t.frames then some .tooDeep else t.breadthFirst.findSome? Form.writingFault?

/-- A function ready to be run: its name and its definition without decorators. -/
structure Function where
  name : String
  definition : Tree

/-- How many frames there are for a function to be written. -/
def Function.room : Nat := 988

/-- The function that a module defines, if it defines one and nothing else, and it can be written where
there is room for so many frames. -/
def Function.ofModule (room : Nat) : List Tree → Except Error Function
  | [.node role (.function name) parts] =>
    let definition := (Tree.node role (.function name) parts).undecorated
    match definition.breadthFirst.findSome? Form.offence? with
    | some e => .error e
    | none =>
      match definition.writingFault? room with
      | some e => .error e
      | none => .ok ⟨name, definition⟩
  | _ => .error .notOneFunction

end MemoryShell.Source
