import MemoryShell.Json.Parser
import MemoryShell.Text.Utf8

set_option autoImplicit false

namespace MemoryShell.Json

/-- Which octet of a number comes first. -/
inductive ByteOrder
  | greatest
  | least
  deriving DecidableEq

/-- How code points are written as octets. -/
inductive Coding
  | utf8
  | utf16 (order : ByteOrder)
  | utf32 (order : ByteOrder)
  deriving DecidableEq

namespace Coding

/-- The coding of octets without a mark. -/
def ofZeros : Bytes → Coding
  | a :: b :: c :: d :: _ =>
    if a = 0 then if b = 0 then .utf32 .greatest else .utf16 .greatest
    else if b = 0 then if c = 0 ∧ d = 0 then .utf32 .least else .utf16 .least
    else .utf8
  | [a, b] => if a = 0 then .utf16 .greatest else if b = 0 then .utf16 .least else .utf8
  | _ => .utf8

/-- The coding of octets, and the octets behind its mark. -/
def detect : Bytes → Coding × Bytes
  | 0x00 :: 0x00 :: 0xFE :: 0xFF :: bs => (.utf32 .greatest, bs)
  | 0xFF :: 0xFE :: 0x00 :: 0x00 :: bs => (.utf32 .least, bs)
  | 0xFE :: 0xFF :: bs => (.utf16 .greatest, bs)
  | 0xFF :: 0xFE :: bs => (.utf16 .least, bs)
  | 0xEF :: 0xBB :: 0xBF :: bs => (.utf8, bs)
  | bs => (ofZeros bs, bs)

def pair : ByteOrder → UInt8 → UInt8 → Nat
  | .greatest, a, b => a.toNat * 0x100 + b.toNat
  | .least, a, b => b.toNat * 0x100 + a.toNat

def pairs? (order : ByteOrder) : Bytes → Option (List Nat)
  | [] => some []
  | a :: b :: bs => (pairs? order bs).map fun ns => pair order a b :: ns
  | [_] => none

def quad : ByteOrder → UInt8 → UInt8 → UInt8 → UInt8 → Nat
  | .greatest, a, b, c, d => pair .greatest a b * 0x10000 + pair .greatest c d
  | .least, a, b, c, d => pair .least c d * 0x10000 + pair .least a b

/-- The code points of octets taken by four. -/
def quads? (order : ByteOrder) : Bytes → Option Text
  | [] => some []
  | a :: b :: c :: d :: bs =>
    let n := quad order a b c d
    if n < 0x110000 then (quads? order bs).map fun t => CodePoint.ofNat n :: t else none
  | _ => none

/-- The code points of pieces of UTF-8, a surrogate being kept. -/
def ofPieces? : List Utf8.Piece → Option Text
  | [] => some []
  | .scalar n :: ps => (ofPieces? ps).map fun t => CodePoint.ofNat n :: t
  | .stray [0xED] :: .stray [b] :: .stray [c] :: ps =>
    if 0xA0 ≤ b ∧ b < 0xC0 ∧ 0x80 ≤ c ∧ c < 0xC0 then
      let n := 0xD000 + (b.toNat - 0x80) * 0x40 + (c.toNat - 0x80)
      (ofPieces? ps).map fun t => CodePoint.ofNat n :: t
    else none
  | .stray _ :: _ => none

def joinPairs : Text → Text
  | a :: b :: t => if isPair a b then ofPair a b :: joinPairs t else a :: joinPairs (b :: t)
  | t => t

def decode? : Coding → Bytes → Option Text
  | .utf8, bs => ofPieces? (Utf8.pieces bs)
  | .utf16 order, bs => (pairs? order bs).map fun ns => joinPairs (ns.map CodePoint.ofNat)
  | .utf32 order, bs => quads? order bs

end Coding

def textOfOctets? (bs : Bytes) : Option Text :=
  let (coding, rest) := Coding.detect bs
  coding.decode? rest

end MemoryShell.Json
