import MemoryShell.Source.Tree

/-!
Literals of texts and octets. A literal has letters in front of its quotes; unless it is raw, a
backslash escapes what follows. Places in a literal are counted with every character outside ASCII
written as an escape of ten characters.
-/

set_option autoImplicit false

namespace MemoryShell.Source.Quoted

/-- A literal taken apart. -/
structure Parts where
  letters : List Char
  content : List Char
  deriving DecidableEq

def quoteWidth : List Char → Nat
  | a :: b :: c :: _ => if a = b && b = c then 3 else 1
  | _ => 1

/-- A literal with its letters apart and without its quotes. -/
def Parts.ofChars (cs : List Char) : Parts :=
  let letters := cs.takeWhile fun c => c ≠ '\'' && c ≠ '"'
  let body := cs.drop letters.length
  let width := quoteWidth body
  ⟨letters.map Char.toLower, (body.drop width).take (body.length - 2 * width)⟩

def Parts.isOctets (p : Parts) : Bool :=
  p.letters.contains 'b'

def Parts.isRaw (p : Parts) : Bool :=
  p.letters.contains 'r'

def Parts.isFormatted (p : Parts) : Bool :=
  p.letters.contains 'f'

/-- The code point of a character that stands for itself. -/
def plainEscape? : Char → Option Nat
  | '\\' => some 0x5C
  | '\'' => some 0x27
  | '"' => some 0x22
  | 'a' => some 7
  | 'b' => some 8
  | 't' => some 9
  | 'n' => some 10
  | 'v' => some 11
  | 'f' => some 12
  | 'r' => some 13
  | _ => none

def longEscape (c : Char) : List Char :=
  '\\' :: 'U' :: Literal.hex 8 c.toNat

/-- The characters with those outside ASCII escaped. A backslash before one is escaped too. -/
def expand : List Char → List Char
  | [] => []
  | '\\' :: c :: cs =>
    if c.toNat < 0x80 then '\\' :: c :: expand cs
    else "\\u005c".toList ++ longEscape c ++ expand cs
  | c :: cs =>
    if c.toNat < 0x80 then c :: expand cs else longEscape c ++ expand cs

def isOctal (c : Char) : Bool :=
  '0' ≤ c && c ≤ '7'

def octalRun (cs : List Char) : List Char :=
  (cs.take 3).takeWhile isOctal

def valueOf (base : Nat) (ds : List Char) : Nat :=
  ds.foldl (fun n (d : Char) => n * base + (Json.hexDigit? d).getD 0) 0

def hexRun (width : Nat) (cs : List Char) : List Char :=
  (cs.take width).takeWhile fun c => (Json.hexDigit? c).isSome

/-- The number of digits of an escape by its letter, and how it is shown. -/
def escapeWidth? : Char → Option (Nat × String)
  | 'x' => some (2, "xXX")
  | 'u' => some (4, "uXXXX")
  | 'U' => some (8, "UXXXXXXXX")
  | _ => none

/-- What is wrong with a name in braces. -/
def nameFault (place : Nat) : List Char → Malformation
  | '\x7b' :: cs =>
    let name := cs.takeWhile (· ≠ '\x7d')
    if name.length = cs.length then .escape .malformedName place (place + 2 + name.length)
    else if name.isEmpty then .escape .malformedName place (place + 2)
    else .escape .unknownName place (place + 3 + name.length)
  | _ => .escape .malformedName place (place + 1)

/-- The text that characters in ASCII stand for from a place on, with room for so many escapes. -/
def decodeFrom : Nat → Nat → List Char → Except Malformation Text
  | 0, _, _ => .ok []
  | _, _, [] => .ok []
  | room + 1, place, '\\' :: '\n' :: cs => decodeFrom room (place + 2) cs
  | _ + 1, place, '\\' :: 'N' :: cs => .error (nameFault place cs)
  | room + 1, place, '\\' :: c :: cs =>
    match plainEscape? c, escapeWidth? c with
    | some n, _ => (decodeFrom room (place + 2) cs).map (CodePoint.ofNat n :: ·)
    | none, some (width, shape) =>
      let ds := hexRun width cs
      let n := valueOf 16 ds
      if ds.length < width then
        .error (.escape (.truncated shape) place (place + 1 + ds.length))
      else if 0x10FFFF < n then .error (.escape .outOfRange place (place + 1 + ds.length))
      else
        (decodeFrom room (place + 2 + width) (cs.drop width)).map (CodePoint.ofNat n :: ·)
    | none, none =>
      if isOctal c then
        let ds := octalRun (c :: cs)
        (decodeFrom room (place + 1 + ds.length) ((c :: cs).drop ds.length)).map
          (CodePoint.ofNat (valueOf 8 ds) :: ·)
      else (decodeFrom room (place + 1) (c :: cs)).map (CodePoint.ofChar '\\' :: ·)
  | room + 1, place, c :: cs => (decodeFrom room (place + 1) cs).map (CodePoint.ofChar c :: ·)

def textOf (p : Parts) : Except Malformation Text :=
  if p.isRaw || !p.content.contains '\\' then .ok (Text.ofChars p.content)
  else
    let cs := expand p.content
    decodeFrom (2 * cs.length) 0 cs

/-- The octets that characters in ASCII stand for from a place on, with room for so many. -/
def octetsFrom : Nat → Nat → List Char → Except Malformation Bytes
  | 0, _, _ => .ok []
  | _, _, [] => .ok []
  | room + 1, place, '\\' :: '\n' :: cs => octetsFrom room (place + 2) cs
  | room + 1, place, '\\' :: 'x' :: cs =>
    let ds := hexRun 2 cs
    if ds.length < 2 then .error (.octetEscape place)
    else (octetsFrom room (place + 4) (cs.drop 2)).map (UInt8.ofNat (valueOf 16 ds) :: ·)
  | room + 1, place, '\\' :: c :: cs =>
    match plainEscape? c with
    | some n => (octetsFrom room (place + 2) cs).map (UInt8.ofNat n :: ·)
    | none =>
      if isOctal c then
        let ds := octalRun (c :: cs)
        (octetsFrom room (place + 1 + ds.length) ((c :: cs).drop ds.length)).map
          (UInt8.ofNat (valueOf 8 ds) :: ·)
      else (octetsFrom room (place + 1) (c :: cs)).map (0x5C :: ·)
  | room + 1, place, c :: cs =>
    (octetsFrom room (place + 1) cs).map (UInt8.ofNat c.toNat :: ·)

def octetsOf (p : Parts) : Except Malformation Bytes :=
  if p.content.any fun c => 0x80 ≤ c.toNat then .error (.complaint .octetCharacter)
  else if p.isRaw then .ok (p.content.map fun c => UInt8.ofNat c.toNat)
  else octetsFrom (2 * p.content.length) 0 p.content

/-- What a literal stands for. -/
inductive Content
  | text (t : Text)
  | octets (b : Bytes)
  | formatted

def Content.isOctets : Content → Bool
  | .octets _ => true
  | _ => false

def contentOf (p : Parts) : Except Malformation Content :=
  if p.isOctets then (octetsOf p).map .octets
  else if p.isFormatted then .ok .formatted
  else (textOf p).map .text

/-- The contents of literals side by side, either all octets or all texts. -/
def contentsOf : Option Bool → List Parts → Except Malformation (List Content)
  | _, [] => .ok []
  | octets?, p :: ps => do
    let content ← contentOf p
    if octets?.any (· ≠ p.isOctets) then .error (.complaint .mixedLiterals)
    else return content :: (← contentsOf (some p.isOctets) ps)

/-- The constant that literals side by side are, none of them formatted. -/
def formOf (literals : List Parts) : Except Malformation Form := do
  let contents ← contentsOf none literals
  if contents.any Content.isOctets then
    return .constant (.octets (contents.flatMap fun
      | .octets b => b
      | _ => []))
  else
    return .constant (.value (.string (contents.flatMap fun
      | .text t => t
      | _ => [])))

end MemoryShell.Source.Quoted
