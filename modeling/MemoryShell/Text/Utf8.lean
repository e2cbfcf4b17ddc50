import MemoryShell.Text.CodePoint

set_option autoImplicit false

namespace MemoryShell.Utf8

/-- The octets of a code point, by its number. -/
def encodeNat (n : Nat) : Bytes :=
  if n < 0x80 then [UInt8.ofNat n]
  else if n < 0x800 then [UInt8.ofNat (0xC0 + n / 64), UInt8.ofNat (0x80 + n % 64)]
  else if n < 0x10000 then
    [UInt8.ofNat (0xE0 + n / 4096), UInt8.ofNat (0x80 + n / 64 % 64), UInt8.ofNat (0x80 + n % 64)]
  else
    [UInt8.ofNat (0xF0 + n / 262144), UInt8.ofNat (0x80 + n / 4096 % 64),
      UInt8.ofNat (0x80 + n / 64 % 64), UInt8.ofNat (0x80 + n % 64)]

def encodeChars (cs : List Char) : Bytes :=
  cs.flatMap fun c => encodeNat c.toNat

def encode (s : String) : Bytes :=
  encodeChars s.toList

def isEscapedOctet (c : CodePoint) : Bool :=
  0xDC80 ≤ c.val && c.val ≤ 0xDCFF

def encodePoint? (c : CodePoint) : Option Bytes :=
  if isEscapedOctet c then some [UInt8.ofNat (c.val - 0xDC00)]
  else if c.isSurrogate then none
  else some (encodeNat c.val)

def encodeText? : Text → Option Bytes
  | [] => some []
  | c :: t => (encodePoint? c).bind fun b => (encodeText? t).map fun bs => b ++ bs

/-- A maximal piece of a sequence of octets. -/
inductive Piece
  | scalar (number : Nat)
  | stray (octets : Bytes)

/-- Between sequences, or inside one: how many octets it lacks, the least and greatest next one,
the number so far and the octets so far. -/
inductive State
  | start
  | inside (lacking : Nat) (least greatest : UInt8) (number : Nat) (taken : Bytes)

/-- What an octet does between sequences: the finished piece, if any, and the state after it. -/
def first (b : UInt8) : Option Piece × State :=
  if b < 0x80 then (some (.scalar b.toNat), .start)
  else if b < 0xC2 then (some (.stray [b]), .start)
  else if b < 0xE0 then (none, .inside 1 0x80 0xBF (b.toNat - 0xC0) [b])
  else if b < 0xF0 then
    (none, .inside 2 (if b = 0xE0 then 0xA0 else 0x80) (if b = 0xED then 0x9F else 0xBF)
      (b.toNat - 0xE0) [b])
  else if b < 0xF5 then
    (none, .inside 3 (if b = 0xF0 then 0x90 else 0x80) (if b = 0xF4 then 0x8F else 0xBF)
      (b.toNat - 0xF0) [b])
  else (some (.stray [b]), .start)

/-- What an octet does in any state. An octet that does not fit closes the stray run before it. -/
def step : State → UInt8 → List Piece × State
  | .start, b => ((first b).1.toList, (first b).2)
  | .inside lacking least greatest number taken, b =>
    if least ≤ b && b ≤ greatest then
      if lacking = 1 then ([.scalar (number * 64 + (b.toNat - 0x80))], .start)
      else
        ([], .inside (lacking - 1) 0x80 0xBF (number * 64 + (b.toNat - 0x80)) (taken ++ [b]))
    else (.stray taken :: (first b).1.toList, (first b).2)

def piecesFrom : State → Bytes → List Piece
  | .start, [] => []
  | .inside _ _ _ _ taken, [] => [.stray taken]
  | s, b :: bs => (step s b).1 ++ piecesFrom (step s b).2 bs

def pieces (bs : Bytes) : List Piece :=
  piecesFrom .start bs

def Piece.shown : Piece → Char
  | .scalar n => Char.ofNat n
  | .stray _ => CodePoint.replacement

def Piece.kept : Piece → Text
  | .scalar n => [CodePoint.ofNat n]
  | .stray octets => octets.map fun b => CodePoint.ofNat (0xDC00 + b.toNat)

def decodeChars (bs : Bytes) : List Char :=
  (pieces bs).map Piece.shown

def decode (bs : Bytes) : String :=
  String.ofList (decodeChars bs)

def decodeText (bs : Bytes) : Text :=
  (pieces bs).flatMap Piece.kept

end MemoryShell.Utf8
