import MemoryShell.Source.Number
import MemoryShell.Source.Token

/-!
From a text to its tokens. Margins are measured twice, with tabs of eight blanks and of one, and
have to agree in both ways. Inside brackets, margins and line ends do not count, nor do blank lines
anywhere.
-/

set_option autoImplicit false

namespace MemoryShell.Source.Lexer

/-- The width of a margin with tabs of eight blanks, and with tabs of one. -/
structure Margin where
  width : Nat
  narrow : Nat
  deriving DecidableEq

def Margin.flush : Margin := ⟨0, 0⟩

/-- What is left to be read, and what has been opened. The innermost comes first. -/
structure Place where
  rest : List Char
  line : Nat
  isLineStart : Bool
  brackets : List (Char × Nat)
  margins : List Margin

def bracketLimit : Nat := 200

def indentationLimit : Nat := 99

def operators : List (List Char) :=
  ["**=", "...", "//=", "<<=", ">>=", "!=", "%=", "&=", "**", "*=", "+=", "-=", "->", "//", "/=",
    ":=", "<<", "<=", "<>", "==", ">=", ">>", "@=", "^=", "|="].map String.toList

/-- The opening bracket of a closing one. -/
def opening? : Char → Option Char
  | ')' => some '('
  | ']' => some '['
  | '\x7d' => some '\x7b'
  | _ => none

def isOpening (c : Char) : Bool :=
  c = '(' || c = '[' || c = '\x7b'

/-- The next step of reading: tokens with the place after them, or an end. -/
inductive Step
  | tokens (ts : List Token) (next : Place)
  | ended (ts : List Token)
  | stopped (s : Stop)

namespace Place

def start (text : List Char) : Place :=
  ⟨text, 1, true, [], []⟩

def token (p : Place) (kind : TokenKind) (text : String) : Token :=
  ⟨kind, text, p.line, p.brackets.length⟩

def fail (p : Place) (m : Malformation) : Step :=
  .stopped ⟨m, true, p.brackets.head?⟩

def halt (p : Place) (m : Malformation) : Step :=
  .stopped ⟨m, false, p.brackets.head?⟩

def haltAtEnd (p : Place) : Step :=
  match p.brackets.head? with
  | some (c, _) => p.halt (.neverClosed c)
  | none => p.halt .endOfText

def moved (p : Place) (rest : List Char) : Place :=
  { p with rest, isLineStart := false }

def margin (p : Place) : Margin :=
  p.margins.head?.getD .flush

end Place

/-- A margin with one more character. -/
def Margin.add (m : Margin) : Char → Option Margin
  | ' ' => some ⟨m.width + 1, m.narrow + 1⟩
  | '\t' => some ⟨(m.width / 8 + 1) * 8, m.narrow + 1⟩
  | '\x0c' => some .flush
  | _ => none

/-- The margin at the start of a line. A backslash at the end of a line of blanks makes the next
line part of it, and the margin before the first one is what counts. -/
def measure (continued? : Option Nat) (m : Margin) (line : Nat) :
    List Char → Except Malformation (Margin × Nat × List Char)
  | '\\' :: '\n' :: [] => .error .endOfText
  | '\\' :: '\n' :: c :: cs =>
    measure (continued? <|> if m.width = 0 then none else some m.width) m (line + 1) (c :: cs)
  | '\\' :: _ => .error .continuation
  | c :: cs =>
    match m.add c with
    | some m => measure continued? m line cs
    | none => .ok ((continued?.map fun w => ⟨w, w⟩).getD m, line, c :: cs)
  | [] => .ok ((continued?.map fun w => ⟨w, w⟩).getD m, line, [])

def leave (width : Nat) : List Margin → List Margin
  | [] => []
  | m :: ms => if width < m.width then leave width ms else m :: ms

/-- What a line's margin says about blocks. -/
def enterLine (p : Place) (m : Margin) : Step :=
  let current := p.margin
  if m.width = current.width then
    if m.narrow = current.narrow then .tokens [] p else p.halt .mixedIndentation
  else if current.width < m.width then
    if indentationLimit ≤ p.margins.length then p.halt .tooMuchIndentation
    else if m.narrow ≤ current.narrow then p.halt .mixedIndentation
    else .tokens [p.token .indent ""] { p with margins := m :: p.margins }
  else
    let margins := leave m.width p.margins
    let outer := margins.head?.getD .flush
    if m.width ≠ outer.width then p.halt .unevenIndentation
    else if m.narrow ≠ outer.narrow then p.halt .mixedIndentation
    else
      .tokens (List.replicate (p.margins.length - margins.length) (p.token .unindent ""))
        { p with margins }

def isBlankRest : List Char → Bool
  | '#' :: _ => true
  | '\n' :: _ => true
  | _ => false

def lineEnd (cs : List Char) : List Char :=
  cs.dropWhile (· ≠ '\n')

def startLine (p : Place) : Step :=
  match measure none .flush p.line p.rest with
  | .error .endOfText => p.haltAtEnd
  | .error m => p.halt m
  | .ok (m, line, rest) =>
    let p := { p.moved rest with line }
    if isBlankRest rest then
      match lineEnd rest with
      | _ :: cs => .tokens [] { p with rest := cs, line := line + 1, isLineStart := true }
      | [] => .tokens [] { p with rest := [] }
    else if p.brackets.isEmpty then enterLine p m
    else .tokens [] p

/-- The letters in front of quotes. -/
structure Letters where
  octets : Bool
  raw : Bool
  plain : Bool
  formatted : Bool

/-- The letters with one more, unless it cannot stand there. -/
def Letters.add (l : Letters) (c : Char) : Option Letters :=
  if (c = 'b' || c = 'B') && !(l.octets || l.plain || l.formatted) then
    some { l with octets := true }
  else if (c = 'u' || c = 'U') && !(l.octets || l.plain || l.raw || l.formatted) then
    some { l with plain := true }
  else if (c = 'r' || c = 'R') && !(l.raw || l.plain) then some { l with raw := true }
  else if (c = 'f' || c = 'F') && !(l.formatted || l.octets || l.plain) then
    some { l with formatted := true }
  else none

def isQuote (c : Char) : Bool :=
  c = '\'' || c = '"'

/-- The number of letters in front of quotes at the start of characters that start with such a
letter, if there are quotes. -/
def lettersBefore? (l : Letters) : List Char → Option Nat
  | [] => none
  | c :: cs =>
    if isQuote c then some 0
    else (l.add c).bind fun l => (lettersBefore? l cs).map (· + 1)

/-- The content of a literal up to its closing quotes, and what follows them. -/
def untilQuotes (quotes : List Char) (isBlock : Bool) : List Char → Option (List Char × List Char)
  | [] => none
  | '\\' :: c :: cs => (untilQuotes quotes isBlock cs).map fun p => ('\\' :: c :: p.1, p.2)
  | c :: cs =>
    if quotes.isPrefixOf (c :: cs) then some (quotes, (c :: cs).drop quotes.length)
    else if c = '\n' && !isBlock then none
    else (untilQuotes quotes isBlock cs).map fun p => (c :: p.1, p.2)

def lineCount (cs : List Char) : Nat :=
  cs.count '\n'

def untilLineEnd : List Char → List Char
  | [] => []
  | '\\' :: c :: cs => '\\' :: c :: untilLineEnd cs
  | c :: cs => if c = '\n' then [c] else c :: untilLineEnd cs

def giveUpLine (line : Nat) (isBlock : Bool) (cs : List Char) : Nat :=
  line + lineCount (if isBlock then cs else untilLineEnd cs).dropLast

def quotesAt (quote : Char) : List Char → List Char
  | a :: b :: _ => if a = quote && b = quote then [quote, quote, quote] else [quote]
  | _ => [quote]

/-- A literal at a place, with the letters in front of it and its quote. -/
def quoted (p : Place) (letters : List Char) (quote : Char) (cs : List Char) : Step :=
  let quotes := quotesAt quote cs
  let isBlock := quotes.length = 3
  let content := cs.drop (quotes.length - 1)
  match untilQuotes quotes isBlock content with
  | some (body, rest) =>
    let text := letters ++ quotes ++ body
    .tokens [p.token .quoted (String.ofList text)]
      { p.moved rest with line := p.line + lineCount text }
  | none => p.fail (.unterminated isBlock (giveUpLine p.line isBlock content))

def word (p : Place) : Step :=
  let cs := p.rest.takeWhile Number.isWordChar
  match if cs.all fun c => c.toNat < 0x80 then none else Text.identifierFault? cs with
  | some c => p.fail (.character c)
  | none =>
    let text := String.ofList cs
    .tokens [p.token (.ofWord text) text] (p.moved (p.rest.drop cs.length))

/-- A word or a literal with letters in front of it. -/
def wordOrQuoted (p : Place) : Step :=
  match lettersBefore? ⟨false, false, false, false⟩ p.rest with
  | some n =>
    match p.rest.drop n with
    | quote :: cs => quoted p (p.rest.take n) quote cs
    | [] => word p
  | none => word p

def openBracket (p : Place) (c : Char) (rest : List Char) : Step :=
  if bracketLimit ≤ p.brackets.length then p.fail .tooManyParentheses
  else
    let p := { p.moved rest with brackets := (c, p.line) :: p.brackets }
    .tokens [p.token .mark (String.singleton c)] p

def closeBracket (p : Place) (c opening : Char) (rest : List Char) : Step :=
  match p.brackets with
  | [] => p.fail (.unmatched c)
  | (o, line) :: outer =>
    if o = opening then
      let p := { p.moved rest with brackets := outer }
      .tokens [p.token .mark (String.singleton c)] p
    else if line = p.line then p.fail (.mismatched c o)
    else p.fail (.mismatchedAcross c o line)

/-- An operator, a bracket or another mark at a place. -/
def mark (p : Place) (c : Char) (cs : List Char) : Step :=
  match operators.find? fun o => o.isPrefixOf (c :: cs) with
  | some o => .tokens [p.token .mark (String.ofList o)] (p.moved ((c :: cs).drop o.length))
  | none =>
    if isOpening c then openBracket p c cs
    else
      match opening? c with
      | some o => closeBracket p c o cs
      | none =>
        if Text.isPrintable (.ofChar c) then
          .tokens [p.token .mark (String.singleton c)] (p.moved cs)
        else p.fail (.character c)

def number (p : Place) : Step :=
  match Number.scan p.rest with
  | .ok (text, rest) => .tokens [p.token .number (String.ofList text)] (p.moved rest)
  | .error m => p.fail m

def endLine (p : Place) (rest : List Char) : Step :=
  let next := { p with rest, line := p.line + 1, isLineStart := true }
  if p.brackets.isEmpty then .tokens [p.token .lineEnd ""] next else .tokens [] next

def endText (p : Place) : Step :=
  if p.brackets.isEmpty then .ended [p.token .ending ""] else p.haltAtEnd

def isBlank (c : Char) : Bool :=
  c = ' ' || c = '\t' || c = '\x0c'

/-- The next token within a line. -/
def withinLine (p : Place) : Step :=
  match p.rest with
  | [] => endText p
  | '\n' :: rest => endLine p rest
  | '#' :: rest => .tokens [] (p.moved (lineEnd rest))
  | '\\' :: '\n' :: [] => p.haltAtEnd
  | '\\' :: '\n' :: rest => .tokens [] { p.moved rest with line := p.line + 1 }
  | '\\' :: _ => p.halt .continuation
  | c :: cs =>
    if isBlank c then .tokens [] (p.moved cs)
    else if c.isDigit || (c = '.' && Number.startsWithDigit cs) then number p
    else if Number.isWordChar c then wordOrQuoted p
    else if isQuote c then quoted p [] c cs
    else mark p c cs

def step (p : Place) : Step :=
  if p.isLineStart then startLine p else withinLine p

/-- The tokens from a place on, with room for so many steps. -/
def run : Nat → Place → Array Token → Tokens
  | 0, _, ts => ⟨ts, none⟩
  | room + 1, p, ts =>
    match step p with
    | .tokens new next => run room next (ts ++ new.toArray)
    | .ended new => ⟨ts ++ new.toArray, none⟩
    | .stopped s => ⟨ts, some s⟩

/-- A text whose lines end in one way, the last one too. -/
def normalizeEnds : List Char → List Char
  | '\r' :: '\n' :: cs => '\n' :: normalizeEnds cs
  | '\r' :: cs => '\n' :: normalizeEnds cs
  | c :: cs => c :: normalizeEnds cs
  | [] => []

def closed (cs : List Char) : List Char :=
  if cs.getLast? = some '\n' then cs else cs ++ ['\n']

def tokens (text : List Char) : Tokens :=
  let text := closed (normalizeEnds text)
  run (2 * text.length + 3) (.start text) #[]

end MemoryShell.Source.Lexer
