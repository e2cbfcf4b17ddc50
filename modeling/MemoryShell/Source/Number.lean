import MemoryShell.Source.Tree

/-!
Numbers in a source. Single underscores may stand between digits. A number ends where no word could
go on, except that some reserved words may stand right behind it.
-/

set_option autoImplicit false

namespace MemoryShell.Source.Number

def isWordChar (c : Char) : Bool :=
  c.isAlphanum || c = '_' || 0x80 ≤ c.toNat

def isDigitIn : Radix → Char → Bool
  | .hexadecimal, c => (Json.hexDigit? c).isSome
  | .octal, c => '0' ≤ c && c ≤ '7'
  | .binary, c => c = '0' || c = '1'
  | _, c => c.isDigit

/-- A spelling and the characters after it. -/
abbrev Scanned := Except Malformation (List Char × List Char)

def Scanned.after (front : List Char) (s : Scanned) : Scanned :=
  s.map fun p => (front ++ p.1, p.2)

def digitFault (radix : Radix) : List Char → Malformation
  | c :: _ =>
    if c.isDigit && (radix = .octal || radix = .binary) then .digit c radix else .number radix
  | [] => .number radix

/-- A run of digits, each underscore with a digit after it. -/
def digitRun (radix : Radix) : List Char → Scanned
  | '_' :: c :: cs =>
    if isDigitIn radix c then (digitRun radix cs).after ['_', c]
    else .error (digitFault radix (c :: cs))
  | '_' :: [] => .error (.number radix)
  | c :: cs => if isDigitIn radix c then (digitRun radix cs).after [c] else .ok ([], c :: cs)
  | [] => .ok ([], [])

def followers : List (List Char) := [
  ['a', 'n', 'd'], ['e', 'l', 's', 'e'], ['f', 'o', 'r'], ['o', 'r'], ['n', 'o', 't']]

def startsWithWord (cs word : List Char) : Bool :=
  word.isPrefixOf cs && !((cs.drop word.length).head?.map isWordChar).getD false

def isEnd : List Char → Bool
  | [] => true
  | 'i' :: cs => [some 'f', some 'n', some 's'].contains cs.head?
  | c :: cs => followers.any (startsWithWord (c :: cs)) || !isWordChar c

def finish (radix : Radix) (rest : List Char) : Scanned :=
  if isEnd rest then .ok ([], rest) else .error (.number radix)

def imaginary : List Char → Scanned
  | 'j' :: cs => (finish .imaginary cs).after ['j']
  | 'J' :: cs => (finish .imaginary cs).after ['J']
  | cs => finish .decimal cs

def digitsThen (next : List Char → Scanned) (cs : List Char) : Scanned := do
  let (digits, rest) ← digitRun .decimal cs
  (next rest).after digits

def startsWithDigit (cs : List Char) : Bool :=
  (cs.head?.map Char.isDigit).getD false

/-- What follows the letter of an exponent. A letter without a number is not part of this one. -/
def exponentBody (letter : Char) (cs : List Char) : Scanned :=
  match cs with
  | '+' :: ds =>
    if startsWithDigit ds then (digitsThen imaginary ds).after [letter, '+']
    else .error (.number .decimal)
  | '-' :: ds =>
    if startsWithDigit ds then (digitsThen imaginary ds).after [letter, '-']
    else .error (.number .decimal)
  | cs =>
    if startsWithDigit cs then (digitsThen imaginary cs).after [letter]
    else finish .decimal (letter :: cs)

def exponent : List Char → Scanned
  | 'e' :: cs => exponentBody 'e' cs
  | 'E' :: cs => exponentBody 'E' cs
  | cs => imaginary cs

def fraction (cs : List Char) : Scanned :=
  if startsWithDigit cs then digitsThen exponent cs else exponent cs

def afterWhole : List Char → Scanned
  | '.' :: cs => (fraction cs).after ['.']
  | cs => exponent cs

def isFractional : List Char → Bool
  | c :: _ => ['.', 'e', 'E', 'j', 'J'].contains c
  | [] => false

/-- Digits of a radix after its letter. -/
def inRadix (radix : Radix) (cs : List Char) : Scanned :=
  match cs with
  | c :: _ =>
    if c = '_' || isDigitIn radix c then do
      let (digits, rest) ← digitRun radix cs
      if radix ≠ .hexadecimal && startsWithDigit rest then .error (digitFault radix rest)
      else (finish radix rest).after digits
    else .error (digitFault radix cs)
  | [] => .error (.number radix)

/-- A number that starts with decimal digits. -/
def decimal (cs : List Char) : Scanned := do
  let (digits, rest) ← digitRun .decimal cs
  let isPadded := digits.head? = some '0' && digits.any fun d => d ≠ '0' && d ≠ '_'
  if isPadded && !isFractional rest then .error .leadingZeros
  else (afterWhole rest).after digits

/-- The number at the start of characters that start with a digit, or with a point and a digit. -/
def scan : List Char → Scanned
  | '.' :: cs => (fraction cs).after ['.']
  | '0' :: 'x' :: cs => (inRadix .hexadecimal cs).after ['0', 'x']
  | '0' :: 'X' :: cs => (inRadix .hexadecimal cs).after ['0', 'X']
  | '0' :: 'o' :: cs => (inRadix .octal cs).after ['0', 'o']
  | '0' :: 'O' :: cs => (inRadix .octal cs).after ['0', 'O']
  | '0' :: 'b' :: cs => (inRadix .binary cs).after ['0', 'b']
  | '0' :: 'B' :: cs => (inRadix .binary cs).after ['0', 'B']
  | cs => decimal cs

def natOf (base : Nat) (ds : List Char) : Nat :=
  ds.foldl (fun n (d : Char) => n * base + (Json.hexDigit? d).getD 0) 0

def isExponentLetter (c : Char) : Bool :=
  c = 'e' || c = 'E'

def signedOf : List Char → Int
  | '-' :: ds => -(natOf 10 ds : Int)
  | '+' :: ds => natOf 10 ds
  | ds => natOf 10 ds

/-- The binary number that a decimal one with a point or an exponent spells. -/
def realOf (cs : List Char) : Binary64 :=
  let body := cs.takeWhile fun c => !isExponentLetter c
  let power := signedOf ((cs.dropWhile fun c => !isExponentLetter c).drop 1)
  let whole := body.takeWhile (· ≠ '.')
  let part := (body.dropWhile (· ≠ '.')).drop 1
  Binary64.ofDecimal false (natOf 10 (whole ++ part)) (power - part.length)

def wholeOf (ds : List Char) : Except Malformation Constant :=
  if Json.digitLimit < ds.length && ds.any (· ≠ '0') then .error (.longNumber ds.length)
  else .ok (.value (.integer (natOf 10 ds)))

def constantOf (spelling : List Char) : Except Malformation Constant :=
  match spelling.filter (· ≠ '_') with
  | '0' :: c :: ds =>
    if c = 'x' || c = 'X' then .ok (.value (.integer (natOf 16 ds)))
    else if c = 'o' || c = 'O' then .ok (.value (.integer (natOf 8 ds)))
    else if c = 'b' || c = 'B' then .ok (.value (.integer (natOf 2 ds)))
    else decimalOf ('0' :: c :: ds)
  | ds => decimalOf ds
where
  /-- The constant that a decimal number spells; with zeros in front of it, it is no whole one. -/
  decimalOf (cs : List Char) : Except Malformation Constant :=
    match cs.getLast? with
    | some 'j' => .ok (.imaginary (realOf cs.dropLast))
    | some 'J' => .ok (.imaginary (realOf cs.dropLast))
    | _ =>
      if cs.all Char.isDigit && (cs.head? ≠ some '0' || cs.all (· = '0')) then wholeOf cs
      else .ok (.value (.real (realOf cs)))

end MemoryShell.Source.Number
