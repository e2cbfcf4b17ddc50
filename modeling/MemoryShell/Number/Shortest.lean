import MemoryShell.Number.Binary64

set_option autoImplicit false

namespace MemoryShell.Binary64

/-- The values that round to a number, as quotients over one denominator, and whether its ends round
to it too. -/
structure Interval where
  low : Nat
  value : Nat
  high : Nat
  den : Nat
  closed : Bool

/-- The interval of a finite nonzero number. Below a power of two the gap is half as wide. -/
def interval (m : Nat) (e : Int) : Interval :=
  let low := if m = twoTo 52 ∧ leastExponent < e then 4 * m - 1 else 4 * m - 2
  let up := if 2 ≤ e then twoTo (e - 2).toNat else 1
  let down := if 2 ≤ e then 1 else twoTo (2 - e).toNat
  ⟨low * up, 4 * m * up, (4 * m + 2) * up, down, m % 2 = 0⟩

def Interval.contains (i : Interval) (n : Nat) : Bool :=
  if i.closed then i.low ≤ n && n ≤ i.high else i.low < n && n < i.high

/-- The point of the grid of multiples of ten to the `k` that lies in the interval and is nearest to
its value. -/
def Interval.point? (i : Interval) (k : Int) : Option Nat :=
  let i := if 0 ≤ k then i
    else { i with
      low := i.low * tenTo (-k).toNat, value := i.value * tenTo (-k).toNat
      high := i.high * tenTo (-k).toNat }
  let unit := if 0 ≤ k then i.den * tenTo k.toNat else i.den
  let d := i.value / unit
  match i.contains (d * unit), i.contains ((d + 1) * unit) with
  | true, true =>
    let below := i.value - d * unit
    let above := (d + 1) * unit - i.value
    some (if below < above || (below == above && d % 2 == 0) then d else d + 1)
  | true, false => some d
  | false, true => some (d + 1)
  | false, false => none

/-- The exponent of the leading digit of the interval's value, plus one. -/
def Interval.magnitude (i : Interval) : Int :=
  if i.den ≤ i.value then (Nat.toDigits 10 (i.value / i.den)).length
  else
    let places := (Nat.toDigits 10 i.den).length
    ((Nat.toDigits 10 (i.value * tenTo places / i.den)).length : Int) - places

/-- The first grid, from coarse to fine, that has a point: its digits and exponent of ten. -/
def Interval.search (i : Interval) (top : Int) : Nat → Nat × Int
  | 0 => (i.value / i.den, 0)
  | n + 1 =>
    let k := top - (17 - n)
    match i.point? k with
    | some d => (d, k)
    | none => i.search top n

def shortest (m : Nat) (e : Int) : Nat × Int :=
  let i := interval m e
  i.search i.magnitude 17

def trimZeros : Nat → Nat → Int → Nat × Int
  | 0, d, k => (d, k)
  | fuel + 1, d, k => if d % 10 = 0 ∧ d ≠ 0 then trimZeros fuel (d / 10) (k + 1) else (d, k)

/-- How the digits of a number are laid out: positional for exponents above the least and up to the
greatest, and otherwise one digit before the point and a signed exponent of two digits or more. -/
def layout (digits : List Char) (point : Int) : List Char :=
  let n : Int := digits.length
  if -4 < point && point ≤ 16 then
    if point ≤ 0 then '0' :: '.' :: List.replicate (-point).toNat '0' ++ digits
    else if n ≤ point then digits ++ List.replicate (point - n).toNat '0' ++ ['.', '0']
    else digits.take point.toNat ++ '.' :: digits.drop point.toNat
  else
    let e := point - 1
    let magnitude := Nat.toDigits 10 e.natAbs
    let tail := 'e' :: (if e < 0 then '-' else '+') ::
      (if magnitude.length < 2 then '0' :: magnitude else magnitude)
    match digits with
    | [] => tail
    | [d] => d :: tail
    | d :: ds => d :: '.' :: ds ++ tail

def text (nanText infiniteText : String) : Binary64 → List Char
  | .nan => nanText.toList
  | .infinite negative => (if negative then ['-'] else []) ++ infiniteText.toList
  | .finite negative m e =>
    (if negative then ['-'] else []) ++
      if m = 0 then ['0', '.', '0']
      else
        let (d, k) := shortest m e
        let (d, k) := trimZeros 20 d k
        let digits := Nat.toDigits 10 d
        layout digits (digits.length + k)

end MemoryShell.Binary64
