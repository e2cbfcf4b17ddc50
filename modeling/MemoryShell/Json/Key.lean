import MemoryShell.Json.Display
import MemoryShell.Json.Printer

set_option autoImplicit false

namespace MemoryShell

/-- The whole number that a floating point number is, if it is one. -/
def Binary64.whole? : Binary64 → Option Int
  | .nan => none
  | .infinite _ => none
  | .finite negative m e =>
    let size : Option Nat :=
      if 0 ≤ e then some (m * twoTo e.toNat)
      else if m % twoTo (-e).toNat = 0 then some (m / twoTo (-e).toNat)
      else none
    size.map fun n => if negative then -(n : Int) else n

/-- Entries by their keys, in order of the first mention of each key. -/
abbrev Keyed (α : Type) := List (Json × α)

namespace Keyed

def isWhole (x : Binary64) (n : Int) : Bool :=
  x.whole? = some n

def ofBool (b : Bool) : Int :=
  if b then 1 else 0

def sameReal (x y : Binary64) : Bool :=
  x ≠ .nan && (x = y || (isWhole x 0 && isWhole y 0))

/-- Whether two keys are one. -/
def sameKey : Json → Json → Bool
  | .null, .null => true
  | .string s, .string t => s = t
  | .bool a, .bool b => a = b
  | .bool a, .integer n => ofBool a = n
  | .integer m, .bool b => m = ofBool b
  | .integer m, .integer n => m = n
  | .real x, .bool b => isWhole x (ofBool b)
  | .bool a, .real y => isWhole y (ofBool a)
  | .real x, .integer n => isWhole x n
  | .integer m, .real y => isWhole y m
  | .real x, .real y => sameReal x y
  | _, _ => false

def isKey : Json → Bool
  | .array _ => false
  | .object _ => false
  | _ => true

def keyText : Json → Text
  | .string t => t
  | v => Text.ofString v.print

variable {α : Type}

def find? : Keyed α → Json → Option α
  | [], _ => none
  | (k, a) :: m, key => if sameKey k key then some a else find? m key

def findText? (m : Keyed α) (t : Text) : Option α :=
  find? m (.string t)

def insert : Keyed α → Json → α → Keyed α
  | [], key, a => [(key, a)]
  | (k, b) :: m, key, a => if sameKey k key then (k, a) :: m else (k, b) :: insert m key a

def fields (m : Keyed α) : List (Text × α) :=
  m.map fun entry => (keyText entry.1, entry.2)

end Keyed

end MemoryShell
