import MemoryShell.Text.Utf8

set_option autoImplicit false

namespace MemoryShell

/-- How octets are read as text. -/
inductive Encoding
  | utf8
  | latin1
  | ascii
  deriving DecidableEq

namespace Encoding

def all : List Encoding :=
  [.utf8, .latin1, .ascii]

def name : Encoding → String
  | .utf8 => "utf_8"
  | .latin1 => "latin_1"
  | .ascii => "ascii"

/-- The other names of an encoding. -/
def aliases : Encoding → List String
  | .utf8 => ["u8", "utf", "utf8", "utf8_ucs2", "utf8_ucs4", "cp65001"]
  | .latin1 => [
    "8859", "cp819", "csisolatin1", "ibm819", "iso8859", "iso8859_1", "iso_8859_1",
    "iso_8859_1_1987", "iso_ir_100", "l1", "latin", "latin1"]
  | .ascii => [
    "646", "ansi_x3.4_1968", "ansi_x3_4_1968", "ansi_x3.4_1986", "cp367", "csascii", "ibm367",
    "iso646_us", "iso_646.irv_1991", "iso_ir_6", "us", "us_ascii"]

def isWordChar (c : Char) : Bool :=
  c.isAlphanum || c = '.'

/-- The words of a name with single underscores between them; the flag tells whether something
separates the next word from one before it. -/
def joinWords : Bool → List Char → List Char
  | _, [] => []
  | apart, c :: cs =>
    if isWordChar c then
      (if apart then ['_', c.toLower] else [c.toLower]) ++ joinWords false cs
    else joinWords true cs

def canonicalName (s : String) : String :=
  String.ofList (joinWords false (s.toList.dropWhile fun c => !isWordChar c))

def undotted (s : String) : String :=
  s.map fun c => if c = '.' then '_' else c

def answersTo (e : Encoding) (name : String) : Bool :=
  e.name = name || e.aliases.contains name || e.aliases.contains (undotted name)

def ofName? (s : String) : Option Encoding :=
  all.find? fun e => e.answersTo (canonicalName s)

/-- Octets as text, with a replacement character for what the encoding lacks. -/
def decode (e : Encoding) (data : Bytes) : String :=
  match e with
  | .utf8 => Utf8.decode data
  | .latin1 => String.ofList (data.map fun b => Char.ofNat b.toNat)
  | .ascii =>
    String.ofList (data.map fun b => if b < 0x80 then Char.ofNat b.toNat else CodePoint.replacement)

end Encoding

end MemoryShell
