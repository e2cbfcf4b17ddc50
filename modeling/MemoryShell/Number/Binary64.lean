set_option autoImplicit false

namespace MemoryShell

inductive Binary64
  | nan
  | infinite (negative : Bool)
  | finite (negative : Bool) (mantissa : Nat) (exponent : Int)
  deriving DecidableEq

namespace Binary64

def twoTo (n : Nat) : Nat :=
  Nat.pow 2 n

def tenTo (n : Nat) : Nat :=
  Nat.pow 10 n

def leastExponent : Int := -1074

def greatestExponent : Int := 971

/-- A quotient rounded to the nearest natural number, and half way to the even one. -/
def roundDiv (num den : Nat) : Nat :=
  let q := num / den
  let r := num % den
  if 2 * r < den then q
  else if den < 2 * r then q + 1
  else if q % 2 = 0 then q else q + 1

def scaled (num den : Nat) (exponent : Int) : Nat :=
  if 0 ≤ exponent then roundDiv num (den * twoTo exponent.toNat)
  else roundDiv (num * twoTo (-exponent).toNat) den

/-- The exponent at which a positive quotient has 53 binary digits, or the least one. -/
def exponentOf (num den : Nat) : Int :=
  let guess : Int := (num.log2 : Int) - den.log2 - 52
  let fits :=
    if 0 ≤ guess then den * twoTo (guess.toNat + 52) ≤ num
    else den * twoTo 52 ≤ num * twoTo (-guess).toNat
  max leastExponent (if fits then guess else guess - 1)

/-- The number nearest to a positive quotient. -/
def ofQuotient (negative : Bool) (num den : Nat) : Binary64 :=
  let e := exponentOf num den
  let m := scaled num den e
  let (m, e) := if m = twoTo 53 then (twoTo 52, e + 1) else (m, e)
  if greatestExponent < e then .infinite negative else .finite negative m e

/-- The number nearest to a decimal. Decimals far outside the range are decided by their size. -/
def ofDecimal (negative : Bool) (digits : Nat) (exponent : Int) : Binary64 :=
  let size : Int := (Nat.toDigits 10 digits).length + exponent
  if digits = 0 || size < -400 then .finite negative 0 leastExponent
  else if 400 < size then .infinite negative
  else if 0 ≤ exponent then ofQuotient negative (digits * tenTo exponent.toNat) 1
  else ofQuotient negative digits (tenTo (-exponent).toNat)

/-- Whether a multiple of a number is at most a whole number. No order holds for what is no
number. -/
def isMultipleAtMost (x : Binary64) (factor : Nat) (n : Int) : Bool :=
  match x with
  | .nan => false
  | .infinite negative => negative
  | .finite negative m e =>
    let signed : Int := (if negative then -(m : Int) else m) * factor
    if 0 ≤ e then signed * twoTo e.toNat ≤ n else signed ≤ n * twoTo (-e).toNat

def isAtMost (x : Binary64) (n : Int) : Bool :=
  x.isMultipleAtMost 1 n

end Binary64

end MemoryShell
