import MemoryShell.Text.Decimal
import MemoryShell.Text.Literal

/-!
Values of a kind that does not fit. A caller may hand over a value of any kind; where one of another
kind is needed, a fault says which demand was not met. Kinds are given by their names.
-/

set_option autoImplicit false

namespace MemoryShell

/-- Which demand a value does not meet. -/
inductive Fault
  | member (kind name : String)
  | operands (symbol left right : String)
  | order (symbol left right : String)
  | octetPath
  | pathPart (kind : String)
  | encodingKind (kind : String)
  | contentKind (kind : String)
  | joinedKind (kind : String)
  | joinedItem (index : Nat) (kind : String)
  | subscript (kind : String)
  | outOfRange (sequence : String)
  | membership (kind : String)
  | octetKind (kind : String)
  | octetRange
  | negativeSize
  | oversize
  | octetCount
  | octetLength
  | memory
  | unencoded
  | unallocatable (kind : String)
  | byteRange
  | longQuotient
  | machineWord
  | timerRange
  | timerNumber
  | octetsNeeded (kind : String)
  | jsonKind (kind : String)
  | pattern (kind : String)
  | iteration (kind : String)
  | entryLength (index length : Nat)
  | entryKind (index : Nat)
  | unhashable (kind : String)
  | missing (callee : String) (names : List String)
  | surplus (callee : String) (least most given : Nat)
  | unknownName (callee name : String)
  | repeatedName (callee name : String)
  deriving DecidableEq

namespace Fault

def label : Fault → String
  | .member _ _ => "AttributeError"
  | .octetRange => "ValueError"
  | .negativeSize => "ValueError"
  | .byteRange => "ValueError"
  | .entryLength _ _ => "ValueError"
  | .octetCount => "ValueError"
  | .timerNumber => "ValueError"
  | .oversize => "OverflowError"
  | .octetLength => "OverflowError"
  | .longQuotient => "OverflowError"
  | .machineWord => "OverflowError"
  | .timerRange => "OverflowError"
  | .outOfRange _ => "IndexError"
  | .memory => "MemoryError"
  | _ => "TypeError"

def decimal (n : Nat) : String :=
  String.ofList (Text.writeNat n)

/-- Quoted names in a row; the last one follows the word for a conjunction. -/
def listed : List String → String
  | [] => ""
  | [a] => Literal.ofString a
  | [a, b] => Literal.ofString a ++ " and " ++ Literal.ofString b
  | names =>
    ", ".intercalate (names.dropLast.map Literal.ofString) ++ ", and "
      ++ Literal.ofString (names.getLast?.getD "")

def missingWords (callee : String) (names : List String) : String :=
  callee ++ "() missing " ++ decimal names.length ++ " required positional argument"
    ++ (if names.length = 1 then "" else "s") ++ ": " ++ listed names

/-- The words for arguments beyond those that are taken; the receiver counts as one. -/
def surplusWords (callee : String) (least most given : Nat) : String :=
  let span :=
    if least = most then decimal (most + 1)
    else "from " ++ decimal (least + 1) ++ " to " ++ decimal (most + 1)
  callee ++ "() takes " ++ span ++ " positional arguments but " ++ decimal (given + 1)
    ++ " were given"

def entryLengthWords (index length : Nat) : String :=
  "dictionary update sequence element #" ++ decimal index ++ " has length " ++ decimal length
    ++ "; 2 is required"

def indexSizeWords : String := "cannot fit 'int' into an index-sized integer"

def message : Fault → String
  | .member kind name => "'" ++ kind ++ "' object has no attribute '" ++ name ++ "'"
  | .operands symbol left right =>
    "unsupported operand type(s) for " ++ symbol ++ ": '" ++ left ++ "' and '" ++ right ++ "'"
  | .order symbol left right =>
    "'" ++ symbol ++ "' not supported between instances of '" ++ left ++ "' and '" ++ right ++ "'"
  | .octetPath => "startswith first arg must be bytes or a tuple of bytes, not str"
  | .pathPart kind =>
    "join() argument must be str, bytes, or os.PathLike object, not '" ++ kind ++ "'"
  | .encodingKind kind => "decode() argument 'encoding' must be str, not " ++ kind
  | .contentKind kind => "cannot convert '" ++ kind ++ "' object to bytes"
  | .joinedKind kind => "can't concat " ++ kind ++ " to bytes"
  | .joinedItem index kind =>
    "sequence item " ++ decimal index ++ ": expected str instance, " ++ kind ++ " found"
  | .subscript kind => "'" ++ kind ++ "' object is not subscriptable"
  | .outOfRange sequence => sequence ++ " index out of range"
  | .membership kind => "argument of type '" ++ kind ++ "' is not iterable"
  | .octetKind kind => "'" ++ kind ++ "' object cannot be interpreted as an integer"
  | .octetRange => "bytes must be in range(0, 256)"
  | .negativeSize => "negative count"
  | .oversize => indexSizeWords
  | .octetCount => indexSizeWords
  | .octetLength => "byte string is too large"
  | .memory => ""
  | .unencoded => "string argument without an encoding"
  | .unallocatable kind => "cannot convert '" ++ kind ++ "' object to bytearray"
  | .byteRange => "byte must be in range(0, 256)"
  | .longQuotient => "integer division result too large for a float"
  | .machineWord => "Python int too large to convert to C long"
  | .timerRange => "timestamp too large to convert to C _PyTime_t"
  | .timerNumber => "Invalid value NaN (not a number)"
  | .octetsNeeded kind => "a bytes-like object is required, not '" ++ kind ++ "'"
  | .jsonKind kind => "the JSON object must be str, bytes or bytearray, not " ++ kind
  | .pattern kind => "expected string or bytes-like object, got '" ++ kind ++ "'"
  | .iteration kind => "'" ++ kind ++ "' object is not iterable"
  | .entryLength index length => entryLengthWords index length
  | .entryKind index =>
    "cannot convert dictionary update sequence element #" ++ decimal index ++ " to a sequence"
  | .unhashable kind => "unhashable type: '" ++ kind ++ "'"
  | .missing callee names => missingWords callee names
  | .surplus callee least most given => surplusWords callee least most given
  | .unknownName callee name =>
    callee ++ "() got an unexpected keyword argument '" ++ name ++ "'"
  | .repeatedName callee name => callee ++ "() got multiple values for argument '" ++ name ++ "'"

end Fault

end MemoryShell
