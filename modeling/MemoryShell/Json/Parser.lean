import MemoryShell.Json.Value
import MemoryShell.Text.Decimal

/-!
Reading JSON. The grammar is that of RFC 8259 with three more numbers, `NaN`, `Infinity` and
`-Infinity`. An escape may name a lone surrogate; the escape of a high one directly before that of a low
one makes one code point. Of a repeated key the first place and the last value count. Two limits apply: the number
of digits of an integer and the depth of nesting.
-/

set_option autoImplicit false

namespace MemoryShell.Json

inductive Error
  | malformed
  | longInteger (digits : Nat)
  | tooDeep
  deriving DecidableEq

/-- What was read and the text after it. -/
abbrev Parsed (α : Type) := Except Error (α × Text)

def digitLimit : Nat := 4300

def longIntegerMessage (digits : Nat) : String :=
  "Exceeds the limit (" ++ String.ofList (Text.writeNat digitLimit)
    ++ " digits) for integer string conversion: value has " ++ String.ofList (Text.writeNat digits)
    ++ " digits; use sys.set_int_max_str_digits() to increase the limit"

def depthLimit : Nat := 990

@[match_pattern] abbrev quote : CodePoint := ⟨0x22, by decide⟩

@[match_pattern] def plus : CodePoint := ⟨0x2B, by decide⟩

@[match_pattern] def comma : CodePoint := ⟨0x2C, by decide⟩

@[match_pattern] def minus : CodePoint := ⟨0x2D, by decide⟩

@[match_pattern] def point : CodePoint := ⟨0x2E, by decide⟩

@[match_pattern] def zero : CodePoint := ⟨0x30, by decide⟩

@[match_pattern] def colon : CodePoint := ⟨0x3A, by decide⟩

@[match_pattern] def openBracket : CodePoint := ⟨0x5B, by decide⟩

abbrev backslash : CodePoint := '\\'

@[match_pattern] def closeBracket : CodePoint := ⟨0x5D, by decide⟩

abbrev letterU : CodePoint := 'u'

@[match_pattern] def openBrace : CodePoint := ⟨0x7B, by decide⟩

@[match_pattern] def closeBrace : CodePoint := ⟨0x7D, by decide⟩

def isSpace (c : CodePoint) : Bool :=
  c = ' ' || c = '\t' || c = '\n' || c = '\r'

def skip (cs : Text) : Text :=
  cs.dropWhile isSpace

def hexDigit? (c : CodePoint) : Option Nat :=
  if 0x30 ≤ c.val ∧ c.val ≤ 0x39 then some (c.val - 0x30)
  else if 0x61 ≤ c.val ∧ c.val ≤ 0x66 then some (c.val - 0x61 + 10)
  else if 0x41 ≤ c.val ∧ c.val ≤ 0x46 then some (c.val - 0x41 + 10)
  else none

/-- The code point that four hexadecimal digits name. -/
def quad? (a b c d : CodePoint) : Option CodePoint := do
  let a ← hexDigit? a
  let b ← hexDigit? b
  let c ← hexDigit? c
  let d ← hexDigit? d
  return CodePoint.ofNat (((a * 16 + b) * 16 + c) * 16 + d)

def escapes : List (Char × Char) := [
  ('"', '"'), ('\\', '\\'), ('/', '/'), ('b', '\x08'), ('f', '\x0c'), ('n', '\n'), ('r', '\r'),
  ('t', '\t')]

def escape? (e : CodePoint) : Option CodePoint :=
  (escapes.find? fun p => CodePoint.ofChar p.1 = e).map fun p => .ofChar p.2

def isPair (a b : CodePoint) : Bool :=
  0xD800 ≤ a.val && a.val < 0xDC00 && 0xDC00 ≤ b.val && b.val < 0xE000

def ofPair (a b : CodePoint) : CodePoint :=
  CodePoint.ofNat (0x10000 + (a.val - 0xD800) * 0x400 + (b.val - 0xDC00))

def escaped? : Text → Option CodePoint
  | e :: u :: a :: b :: c :: d :: _ => if e = backslash ∧ u = letterU then quad? a b c d else none
  | _ => none

/-- An escaped code point before what the text after it is read as. With an escape directly after it,
it may be the first half of a pair; a surrogate that stands in the text as it is joins nothing. -/
def attach (p : CodePoint) (after read : Text) : Text :=
  match escaped? after with
  | some q => if isPair p q then ofPair p q :: read.tail else p :: read
  | none => p :: read

/-- A string after its opening quote. -/
def stringBody : Text → Parsed Text
  | [] => .error .malformed
  | c :: cs =>
    if c = quote then .ok ([], cs)
    else if c ≠ backslash then
      if c.val < 0x20 then .error .malformed else (stringBody cs).map fun r => (c :: r.1, r.2)
    else
      match cs with
      | [] => .error .malformed
      | e :: cs =>
        if e = letterU then
          match cs with
          | a :: b :: c :: d :: cs =>
            match quad? a b c d with
            | some p => (stringBody cs).map fun r => (attach p cs r.1, r.2)
            | none => .error .malformed
          | _ => .error .malformed
        else
          match escape? e with
          | some p => (stringBody cs).map fun r => (p :: r.1, r.2)
          | none => .error .malformed

def isDigit (c : CodePoint) : Bool :=
  0x30 ≤ c.val && c.val ≤ 0x39

def digitsValue (ds : Text) : Nat :=
  ds.foldl (fun n c => 10 * n + (c.val - 0x30)) 0

def digits? (cs : Text) : Option (Text × Text) :=
  match cs.span isDigit with
  | ([], _) => none
  | (ds, rest) => some (ds, rest)

def whole? : Text → Option (Text × Text)
  | zero :: cs => some ([zero], cs)
  | cs => digits? cs

def fraction : Text → Text × Text
  | point :: cs => (digits? cs).getD ([], point :: cs)
  | cs => ([], cs)

def exponentBody? : Text → Option (Int × Text)
  | minus :: cs => (digits? cs).map fun r => (-(digitsValue r.1 : Int), r.2)
  | plus :: cs => (digits? cs).map fun r => (digitsValue r.1, r.2)
  | cs => (digits? cs).map fun r => (digitsValue r.1, r.2)

def exponent? : Text → Option (Int × Text)
  | c :: cs => if c = 'e' ∨ c = 'E' then exponentBody? cs else none
  | [] => none

/-- A number after its sign. -/
def number (negative : Bool) (cs : Text) : Parsed Json :=
  match whole? cs with
  | none => .error .malformed
  | some (ds, cs) =>
    let (fs, afterFraction) := fraction cs
    let mantissa := digitsValue (ds ++ fs)
    match exponent? afterFraction, fs with
    | none, [] =>
      if digitLimit < ds.length then .error (.longInteger ds.length)
      else .ok (.integer (if negative then -(mantissa : Int) else mantissa), cs)
    | none, fs => .ok (.real (.ofDecimal negative mantissa (-(fs.length : Int))), afterFraction)
    | some (e, rest), fs => .ok (.real (.ofDecimal negative mantissa (e - fs.length)), rest)

def words : List (Text × Json) := [
  ("null", .null), ("true", .bool true), ("false", .bool false), ("NaN", .real .nan),
  ("Infinity", .real (.infinite false)), ("-Infinity", .real (.infinite true))]

def word? (cs : Text) : Option (Json × Text) :=
  (words.find? fun w => w.1.isPrefixOf cs).map fun w => (w.2, cs.drop w.1.length)

/-- A value without parts. -/
def scalar (cs : Text) : Parsed Json :=
  match word? cs, cs with
  | some r, _ => .ok r
  | none, minus :: cs => number true cs
  | none, cs => number false cs

/-- The items of an array, the first already due; the count bounds their number. -/
def items (element : Text → Parsed Json) : Nat → Text → Parsed (List Json)
  | 0, _ => .error .malformed
  | n + 1, cs =>
    (element cs).bind fun x =>
      match skip x.2 with
      | closeBracket :: cs => .ok ([x.1], cs)
      | comma :: cs => (items element n (skip cs)).map fun r => (x.1 :: r.1, r.2)
      | _ => .error .malformed

/-- A field after the opening quote of its key. -/
def field (element : Text → Parsed Json) (cs : Text) : Parsed (Text × Json) :=
  (stringBody cs).bind fun key =>
    match skip key.2 with
    | colon :: cs => (element (skip cs)).map fun x => ((key.1, x.1), x.2)
    | _ => .error .malformed

/-- The fields of an object, the first already due; the count bounds their number. -/
def fields (element : Text → Parsed Json) : Nat → Text → Parsed (List (Text × Json))
  | n + 1, quote :: cs =>
    (field element cs).bind fun x =>
      match skip x.2 with
      | closeBrace :: cs => .ok ([x.1], cs)
      | comma :: cs => (fields element n (skip cs)).map fun r => (x.1 :: r.1, r.2)
      | _ => .error .malformed
  | _, _ => .error .malformed

/-- A value that may hold containers up to the given depth. -/
def value : Nat → Text → Parsed Json
  | _, quote :: cs => (stringBody cs).map fun r => (.string r.1, r.2)
  | 0, openBracket :: _ => .error .tooDeep
  | 0, openBrace :: _ => .error .tooDeep
  | d + 1, openBracket :: cs =>
    match skip cs with
    | closeBracket :: cs => .ok (.array [], cs)
    | cs => (items (value d) (cs.length + 1) cs).map fun r => (.array r.1, r.2)
  | d + 1, openBrace :: cs =>
    match skip cs with
    | closeBrace :: cs => .ok (.object [], cs)
    | cs =>
      (fields (value d) (cs.length + 1) cs).map fun r => (.object (OrderedMap.ofList r.1), r.2)
  | _, cs => scalar cs

def parseText (cs : Text) : Except Error Json := do
  let (v, rest) ← value depthLimit (skip cs)
  if (skip rest).isEmpty then return v else throw .malformed

def parse (s : String) : Except Error Json :=
  parseText (Text.ofString s)

end MemoryShell.Json
