/-!
Spellings of Internet addresses. One of version four has four decimal parts below 256 without
leading zeros. One of version six has eight hexadecimal groups; two colons stand for one run of zero
groups, the last two groups may be written as an address of version four, and a zone may follow a
percent sign.
-/

set_option autoImplicit false

namespace MemoryShell

namespace Text

/-- The parts before and after the first separator; without one there is no second part. -/
def cut (separator : Char) : List Char → List Char × Option (List Char)
  | [] => ([], none)
  | c :: cs =>
    if c = separator then ([], some cs)
    else ((c :: (cut separator cs).1), (cut separator cs).2)

def upTo (separator : Char) (cs : List Char) : List Char :=
  (cut separator cs).1

def past (separator : Char) (cs : List Char) : List Char :=
  (cut separator cs).2.getD []

/-- The parts before and after the last separator; without one everything comes after. -/
def cutLast (separator : Char) : List Char → Option (List Char) × List Char
  | [] => (none, [])
  | c :: cs =>
    match cutLast separator cs with
    | (some before, after) => (some (c :: before), after)
    | (none, after) => if c = separator then (some [], after) else (none, c :: after)

/-- The pieces between the separators. -/
def splitChars (separator : Char) : List Char → List (List Char)
  | [] => [[]]
  | c :: cs =>
    if c = separator then [] :: splitChars separator cs
    else
      match splitChars separator cs with
      | [] => [[c]]
      | p :: ps => (c :: p) :: ps

end Text

namespace Internet

def decimal (ds : List Char) : Nat :=
  ds.foldl (fun n c => 10 * n + (c.toNat - '0'.toNat)) 0

def isOctet (ds : List Char) : Bool :=
  ds ≠ [] && ds.all Char.isDigit && ds.length ≤ 3
    && (ds = ['0'] || ds.head? ≠ some '0') && decimal ds < 256

def isVersionFour (cs : List Char) : Bool :=
  let parts := Text.splitChars '.' cs
  parts.length = 4 && parts.all isOctet

def isHexDigit (c : Char) : Bool :=
  c.isDigit || ('a' ≤ c && c ≤ 'f') || ('A' ≤ c && c ≤ 'F')

def isGroup (cs : List Char) : Bool :=
  cs ≠ [] && cs.all isHexDigit && cs.length ≤ 4

/-- The groups between colons with a last part of version four written as two groups, or nothing if
that part is none. -/
def expandLast (parts : List (List Char)) : Option (List (List Char)) :=
  match parts.getLast? with
  | none => some parts
  | some last =>
    if last.contains '.' then
      if isVersionFour last then some (parts.dropLast ++ [['0'], ['0']]) else none
    else some parts

def innerGaps (parts : List (List Char)) : List Nat :=
  ((parts.zip (List.range parts.length)).filter fun p =>
    p.1 = [] && 0 < p.2 && p.2 + 1 < parts.length).map Prod.snd

/-- Whether parts with a gap at a position spell an address: at least one group is left out, and an
empty part at an end touches the gap. -/
def fitsAround (parts : List (List Char)) (gap : Nat) : Bool :=
  let high := parts.take gap
  let low := parts.drop (gap + 1)
  let high := if high = [[]] then [] else high
  let low := if low = [[]] then [] else low
  high.length + low.length < 8 && high.all isGroup && low.all isGroup

/-- Whether groups and gaps between colons spell an address. -/
def areGroups (parts : List (List Char)) : Bool :=
  match innerGaps parts with
  | [] => parts.length = 8 && parts.all isGroup
  | [gap] => parts.length ≤ 9 && fitsAround parts gap
  | _ => false

def isZone : Option (List Char) → Bool
  | none => true
  | some zone => zone ≠ [] && !zone.contains '%'

def isVersionSix (cs : List Char) : Bool :=
  let (address, zone) := Text.cut '%' cs
  let parts := Text.splitChars ':' address
  !cs.contains '/' && isZone zone && 3 ≤ parts.length
    && match expandLast parts with
      | none => false
      | some parts => areGroups parts

/-- Whether a spelling is that of an address of a later version. -/
def isVersionFuture (cs : List Char) : Bool :=
  match cs with
  | 'v' :: rest =>
    let (digits, tail) := Text.cut '.' rest
    digits ≠ [] && digits.all isHexDigit
      && match tail with
        | none => false
        | some t => t ≠ [] && !t.contains '\n'
  | _ => false

end Internet

end MemoryShell
