import MemoryShell.Text.CodePoint

set_option autoImplicit false

namespace MemoryShell.Text

/-- The zeros of the scripts that have decimal digits; each is followed by its one to nine. -/
def decimalZeros : List Nat := [
  0x30, 0x660, 0x6F0, 0x7C0, 0x966, 0x9E6, 0xA66, 0xAE6, 0xB66, 0xBE6, 0xC66, 0xCE6, 0xD66, 0xDE6,
  0xE50, 0xED0, 0xF20, 0x1040, 0x1090, 0x17E0, 0x1810, 0x1946, 0x19D0, 0x1A80, 0x1A90, 0x1B50,
  0x1BB0, 0x1C40, 0x1C50, 0xA620, 0xA8D0, 0xA900, 0xA9D0, 0xA9F0, 0xAA50, 0xABF0, 0xFF10, 0x104A0,
  0x10D30, 0x11066, 0x110F0, 0x11136, 0x111D0, 0x112F0, 0x11450, 0x114D0, 0x11650, 0x116C0,
  0x11730, 0x118E0, 0x11950, 0x11C50, 0x11D50, 0x11DA0, 0x16A60, 0x16AC0, 0x16B50, 0x1D7CE,
  0x1D7D8, 0x1D7E2, 0x1D7EC, 0x1D7F6, 0x1E140, 0x1E2F0, 0x1E950, 0x1FBF0]

def digitValue? (c : Char) : Option Nat :=
  (decimalZeros.find? fun z => z ≤ c.toNat && c.toNat ≤ z + 9).map fun z => c.toNat - z

def readDigits : Nat → List Char → Option Nat
  | n, [] => some n
  | n, '_' :: c :: cs => (digitValue? c).bind fun d => readDigits (10 * n + d) cs
  | n, c :: cs => (digitValue? c).bind fun d => readDigits (10 * n + d) cs

def readNat? : List Char → Option Nat
  | [] => none
  | c :: cs => (digitValue? c).bind fun d => readDigits d cs

def isNumberBlank (c : Char) : Bool :=
  isBlank c && !(0x1C ≤ c.toNat && c.toNat ≤ 0x1F)

def stripNumber (cs : List Char) : List Char :=
  ((cs.dropWhile isNumberBlank).reverse.dropWhile isNumberBlank).reverse

def unsigned : List Char → List Char
  | '-' :: ds => ds
  | '+' :: ds => ds
  | ds => ds

def digitRun (cs : List Char) : List Char :=
  cs.takeWhile fun c => c = '_' || (digitValue? c).isSome

/-- Whether every underscore stands between two digits, for a run of both. -/
def isWellSpaced : List Char → Bool
  | [] => true
  | '_' :: _ => false
  | [_] => true
  | _ :: '_' :: rest => !rest.isEmpty && isWellSpaced rest
  | _ :: c :: rest => isWellSpaced (c :: rest)

def digitCount (run : List Char) : Nat :=
  (run.filter (· ≠ '_')).length

/-- The integer that a list of characters spells. -/
def readInt? (cs : List Char) : Option Int :=
  let number := stripNumber cs
  let magnitude := readNat? (unsigned number)
  if number.head? = some '-' then magnitude.map fun n => -(n : Int)
  else magnitude.map fun n => (n : Int)

def writeNat (n : Nat) : List Char :=
  Nat.toDigits 10 n

def writeInt : Int → List Char
  | .ofNat n => writeNat n
  | .negSucc n => '-' :: writeNat (n + 1)

def ofInt (i : Int) : String :=
  String.ofList (writeInt i)

end MemoryShell.Text
