import MemoryShell.Source.Draft
import MemoryShell.Source.Function
import MemoryShell.Source.Parse

set_option autoImplicit false

namespace MemoryShell.Source

open Recognizer (isMark lineAt)

def isMarginChar (c : Char) : Bool :=
  c = ' ' || c = '\t'

def linesOf : List Char → List (List Char)
  | [] => [[]]
  | '\n' :: cs => [] :: linesOf cs
  | c :: cs =>
    match linesOf cs with
    | [] => [[c]]
    | line :: lines => (c :: line) :: lines

def commonStart : List Char → List Char → List Char
  | a :: as, b :: bs => if a = b then a :: commonStart as bs else []
  | _, _ => []

def marginOf (lines : List (List Char)) : List Char :=
  match (lines.filter fun l => !l.all isMarginChar).map (List.takeWhile isMarginChar) with
  | [] => []
  | m :: ms => ms.foldl commonStart m

def withoutMargin (text : List Char) : List Char :=
  let lines := (linesOf text).map fun l => if l.all isMarginChar then [] else l
  let width := (marginOf lines).length
  List.intercalate ['\n'] (lines.map (List.drop width))

/-- What a caller hands over to be run. -/
inductive Origin
  | draft (module : List Draft.Stmt)
  | lambda
  | native (shown : String)
  | unreadable (m : Malformation)

def Origin.isTooDeep : Origin → Bool
  | .draft module => Draft.isTooDeep module
  | _ => false

def tokensOf (text : List Char) : Tokens :=
  Lexer.tokens (withoutMargin text)

/-- Tokens without the decorators in front. -/
def Tokens.undecorated (ts : Tokens) : Tokens :=
  match undecorate ts with
  | some (_, rest) => rest
  | none => ts

/-- Whether one more parenthesis closes behind the one here, perhaps with a comma between them at the end of
an item. -/
def closesTwice (allowsComma : Bool) : List Token → Bool
  | _ :: a :: b :: c :: _ =>
    isMark ")" a || (allowsComma && isMark "," a && isMark ")" b && isMark ":" c)
  | _ => false

/-- Whether two pairs of parentheses open here that close together. -/
def isWrapped (allowsComma : Bool) : List Token → Bool
  | t :: u :: ts =>
    isMark "(" t && isMark "(" u && closesTwice allowsComma (ts.dropWhile fun v => u.depth ≤ v.depth)
  | _ => false

/-- Tokens with one pair of parentheses only around the one item of a `with`. Where the item may start is
said, and whether a comma may end it; the pairs that are left out close where so many brackets are open. -/
def unwrap : Option Bool → List Nat → List Token → List Token
  | _, _, [] => []
  | item?, closers, t :: ts =>
    if item?.any (isWrapped · (t :: ts)) then unwrap (some false) ((t.depth - 1) :: closers) ts
    else if closers.head? = some t.depth then unwrap none closers.tail ts
    else if isMark "," t && closers.head?.any fun n => (ts.head?.map Token.depth) = some n then
      unwrap none closers ts
    else t :: unwrap (if isMark "with" t then some true else none) closers ts

/-- The literals that a text consists of, where it does. -/
def literalsIn? (cs : List Char) : Option (List String) :=
  let ts := Lexer.tokens cs
  let literals := ts.tokens.toList.takeWhile (·.kind = .quoted)
  let rest := ts.tokens.toList.drop literals.length
  if ts.stop?.isNone && rest.map Token.kind = [.lineEnd, .ending] then some (literals.map Token.text)
  else none

/-- What is written where a token was. If it is no literals, it cannot be read. -/
def spelledAs (t : Token) (cs : List Char) : List Token :=
  match literalsIn? cs with
  | some texts => texts.map fun text => { t with text }
  | none => [{ t with kind := .mark, text := String.ofList cs }]

/-- Literals side by side as one, where some are formatted; others stay as they are. -/
def respellRun : List Token → List Token
  | [] => []
  | t :: ts =>
    let literals := Field.literalsOf (t :: ts)
    if (t :: ts).all (·.kind = .quoted) && literals.any Quoted.Parts.isFormatted then
      match Field.write? literals with
      | some cs => spelledAs t cs
      | none => t :: ts
    else t :: ts

def respell (ts : List Token) : List Token :=
  (Field.runs (unwrap none [] ts)).flatMap respellRun

/-- Tokens as they are spelled where what they spell is written anew, but for the names in them. -/
def Tokens.respelled (ts : Tokens) : Tokens :=
  { ts with tokens := (respell ts.tokens.toList).toArray }

/-- The tokens of a function that is written anew, where it is spelled by these. What decorates it is left out,
every name is in normal form, and the line of its first word is the first one. Parentheses that writing adds
are not told. -/
def Tokens.renewed (ts : Tokens) : Tokens :=
  let kept := ts.undecorated
  let skipped := lineAt kept 0 - 1
  ⟨kept.respelled.tokens.map fun t => { t.settled with line := t.line - skipped }, none⟩

/-- The function that tokens spell, with the tokens that it is handed on as, where there is room to write
it for so many frames. -/
def Function.ofTokens (room : Nat) (ts : Tokens) : Except Error (Function × Tokens) := do
  let module ← (moduleOf ts).mapError fun d => .malformed d.malformation
  return (← ofModule room module, ts.renewed)

/-- The function that a caller hands over, with the tokens that it is handed on as. -/
def Function.ofOrigin (room : Nat) : Origin → Except Error (Function × Tokens)
  | .draft module =>
    let text := Draft.writeModule module
    if text.contains '\x00' then .error .nullCharacter else ofTokens room (tokensOf text)
  | .lambda => .error .anonymous
  | .native shown => .error (.unavailable shown)
  | .unreadable m => .error (.malformed m)

end MemoryShell.Source
