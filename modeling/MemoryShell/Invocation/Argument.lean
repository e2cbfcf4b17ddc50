import MemoryShell.Fault
import MemoryShell.Json.Display

set_option autoImplicit false

namespace MemoryShell

/-- Why something cannot leave its process: the class of a failure and its words. -/
structure Refusal where
  label : String
  words : Text
  deriving DecidableEq

/-- Something that is neither a value of JSON nor octets, as far as a method looks at it. What cannot
leave its process has a refusal; a generator is refused, a tuple is not. -/
structure Foreign where
  kindName : String
  display : Text
  isTruthy : Bool
  octets : Except Fault Bytes
  refusal? : Option Refusal

/-- An argument of a call. -/
inductive Argument
  | value (v : Json)
  | octets (bs : Bytes)
  | foreign (x : Foreign)

namespace Argument

def kindName : Argument → String
  | .value v => v.kindName
  | .octets _ => "bytes"
  | .foreign x => x.kindName

def display : Argument → Text
  | .value v => v.display
  | .octets bs => Literal.ofBytes bs
  | .foreign x => x.display

def isTruthy : Argument → Bool
  | .value v => v.isTruthy
  | .octets bs => !bs.isEmpty
  | .foreign x => x.isTruthy

def refusal? : Argument → Option Refusal
  | .foreign x => x.refusal?
  | .value _ | .octets _ => none

def integer? : Argument → Option Int
  | .value (.integer n) => some n
  | .value (.bool b) => some (if b then 1 else 0)
  | _ => none

def sizeLimit : Int := 0x8000000000000000

def lengthLimit : Int := sizeLimit - 33

def memoryLimit : Int := 0x800000000000

def octet : Json → Except Fault UInt8
  | .integer n => if 0 ≤ n ∧ n < 256 then .ok (UInt8.ofNat n.toNat) else .error .octetRange
  | .bool b => .ok (if b then 1 else 0)
  | v => .error (.octetKind v.kindName)

/-- The octets that are made of a value. -/
def octetsOf : Json → Except Fault Bytes
  | .integer n =>
    if n < -sizeLimit ∨ sizeLimit ≤ n then .error .oversize
    else if n < 0 then .error .negativeSize
    else if lengthLimit ≤ n then .error .octetLength
    else if memoryLimit ≤ n then .error .memory
    else .ok (List.replicate n.toNat 0)
  | .bool b => .ok (if b then [0] else [])
  | .array items => items.mapM octet
  | .object [] => .ok []
  | .object _ => .error (.octetKind "str")
  | v => .error (.contentKind v.kindName)

end Argument

end MemoryShell
