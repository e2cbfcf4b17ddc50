import MemoryShell.Text.CodePoint
import MemoryShell.Text.Printable

set_option autoImplicit false

namespace MemoryShell.Literal

def hex (width n : Nat) : List Char :=
  match width with
  | 0 => []
  | w + 1 => hex w (n / 16) ++ [Nat.digitChar (n % 16)]

def delimiter (hasSingle hasDouble : Bool) : Char :=
  if hasSingle && !hasDouble then '"' else '\''

/-- A code point inside a literal. -/
def escapePoint (quote : Char) (c : CodePoint) : List Char :=
  if c = .ofChar quote || c = .ofChar '\\' then ['\\', c.toChar]
  else if c = .ofChar '\t' then ['\\', 't']
  else if c = .ofChar '\n' then ['\\', 'n']
  else if c = .ofChar '\r' then ['\\', 'r']
  else if Text.isPrintable c then [c.toChar]
  else if c.val ≤ 0xFF then '\\' :: 'x' :: hex 2 c.val
  else if c.val ≤ 0xFFFF then '\\' :: 'u' :: hex 4 c.val
  else '\\' :: 'U' :: hex 8 c.val

def ofText (t : Text) : String :=
  let quote := delimiter (t.contains (.ofChar '\'')) (t.contains (.ofChar '"'))
  String.ofList (quote :: t.flatMap (escapePoint quote) ++ [quote])

def ofString (s : String) : String :=
  ofText (Text.ofString s)

def escapeOctet (quote : Char) (b : UInt8) : List Char :=
  let c := Char.ofNat b.toNat
  if c = quote || c = '\\' then ['\\', c]
  else if c = '\t' then ['\\', 't']
  else if c = '\n' then ['\\', 'n']
  else if c = '\r' then ['\\', 'r']
  else if 0x20 ≤ b && b < 0x7F then [c]
  else '\\' :: 'x' :: hex 2 b.toNat

/-- A code point inside a literal in which quotes and blanks stand for themselves. -/
def sparePoint (c : CodePoint) : List Char :=
  if c = .ofChar '\n' || c = .ofChar '\t' then [c.toChar] else escapePoint '\\' c

/-- The quotes that a text may stand between, the best first. -/
def quotations : List (List Char) :=
  [['\''], ['"'], ['"', '"', '"'], ['\'', '\'', '\'']]

def holds (part : List Char) : List Char → Bool
  | [] => part.isEmpty
  | c :: cs => part.isPrefixOf (c :: cs) || holds part cs

/-- Whether characters may stand between quotes as they are. -/
def fits (cs quotes : List Char) : Bool :=
  (quotes.length = 3 || !cs.contains '\n') && !holds quotes cs

/-- A text as it stands between quotes, and the quotes of those given that it may stand between. Quotes that
do not end it are better. Where there are none, quotes are escaped. -/
def between (point : CodePoint → List Char) (quotes : List (List Char)) (t : Text) :
    List Char × List (List Char) :=
  let cs := t.flatMap point
  let fitting := quotes.filter (fits cs)
  match fitting.filter (fun q => q.head? ≠ cs.getLast?) ++
      fitting.filter (fun q => q.head? = cs.getLast?) with
  | [] =>
    let quote := delimiter (t.contains (.ofChar '\'')) (t.contains (.ofChar '"'))
    (t.flatMap (escapePoint quote), [(quotes.find? fun q => q.contains quote).getD [quote]])
  | q :: qs =>
    if q.head? = cs.getLast? then (cs.dropLast ++ '\\' :: cs.getLast?.toList, q :: qs) else (cs, q :: qs)

/-- A literal with as few backslashes as can be, between quotes of those given. -/
def sparing (quotes : List (List Char)) (t : Text) : List Char :=
  let (cs, qs) := between sparePoint quotes t
  let quote := qs.headD []
  quote ++ cs ++ quote

def ofBytes (bs : Bytes) : String :=
  let quote := delimiter (bs.contains 0x27) (bs.contains 0x22)
  String.ofList ('b' :: quote :: bs.flatMap (escapeOctet quote) ++ [quote])

end MemoryShell.Literal
