import MemoryShell.Source.Lexer
import MemoryShell.Source.Quoted

/-!
Formatted texts. Expressions stand in braces, each with a conversion and a format if it has them, and a
format may hold expressions again. Braces that are doubled stand for themselves, but not in a format. A
format is told from an expression before either is read. Where such a text is written anew, quotes are picked
for it once more, and what stands in braces is written without backslashes or not at all.
-/

set_option autoImplicit false

namespace MemoryShell.Source.Field

open Lexer (bracketLimit isOpening opening?)

/-- What a formatted text holds, in order. A fault is come upon where it stands, so what stands before it
is read first. -/
inductive Piece
  | text (t : Text)
  | field (expression conversion : List Char) (hasFormat : Bool) (format : List Piece)
  | fault (m : Malformation)

/-- Where a plain text ends: before a brace or at the end, within doubled braces, or nowhere. -/
inductive Ending
  | before (rest : List Char)
  | doubled (rest : List Char)
  | fault

def isBrace (c : Char) : Bool :=
  c = '\x7b' || c = '\x7d'

/-- What a brace means in a plain text. -/
def meet (isTop : Bool) (c : Char) (cs : List Char) : List Char × Ending :=
  if isTop && cs.head? = some c then ([c], .doubled cs.tail)
  else if isTop && c = '\x7d' then ([], .fault)
  else ([], .before (c :: cs))

/-- A plain text and where it ends. Characters may be named in braces unless the text is raw. -/
def plainText (isRaw isTop : Bool) : Bool → List Char → List Char × Ending
  | _, [] => ([], .before [])
  | true, c :: cs => (plainText isRaw isTop (c ≠ '\x7d') cs).map (c :: ·) id
  | false, '\\' :: c :: cs =>
    if !isRaw && c = 'N' then
      match cs with
      | d :: ds => (plainText isRaw isTop (d = '\x7b') ds).map (fun t => '\\' :: c :: d :: t) id
      | [] => (['\\', c], .before [])
    else if isBrace c then (meet isTop c cs).map ('\\' :: ·) id
    else (plainText isRaw isTop false cs).map (fun t => '\\' :: c :: t) id
  | false, c :: cs =>
    if isBrace c then meet isTop c cs else (plainText isRaw isTop false cs).map (c :: ·) id

/-- A plain text, or the fault in it. -/
def pieceOf (isRaw : Bool) (t : List Char) : Piece :=
  match Quoted.textOf ⟨if isRaw then ['r'] else [], t⟩ with
  | .ok t => .text t
  | .error m => .fault m

/-- What may end an expression outside brackets. -/
def isTerminator (c : Char) : Bool :=
  c = '!' || c = ':' || c = '\x7d' || c = '=' || c = '<' || c = '>'

/-- The quotes that an expression is inside of: one, or three of them. -/
structure Quotes where
  mark : Char
  isTripled : Bool

/-- An expression and what follows it, inside quotes and brackets. -/
def expression (quotes? : Option Quotes) (brackets : List Char) :
    List Char → Except FieldFault (List Char × List Char)
  | [] =>
    if quotes?.isSome then .error .unterminated
    else
      match brackets with
      | b :: _ => .error (.unmatched b)
      | [] => .ok ([], [])
  | c :: cs =>
    if c = '\\' then .error .backslash
    else
      let goOn := fun quotes? brackets => (expression quotes? brackets cs).map (Prod.map (c :: ·) id)
      match quotes? with
      | some quotes =>
        if c ≠ quotes.mark then goOn (some quotes) brackets
        else if !quotes.isTripled then goOn none brackets
        else
          match cs with
          | d :: e :: ds =>
            if d = c && e = c then
              (expression none brackets ds).map (Prod.map (fun t => c :: d :: e :: t) id)
            else goOn (some quotes) brackets
          | _ => goOn (some quotes) brackets
      | none =>
        if c = '\'' || c = '"' then
          match cs with
          | d :: e :: ds =>
            if d = c && e = c then
              (expression (some ⟨c, true⟩) brackets ds).map (Prod.map (fun t => c :: d :: e :: t) id)
            else goOn (some ⟨c, false⟩) brackets
          | _ => goOn (some ⟨c, false⟩) brackets
        else if isOpening c then
          if bracketLimit ≤ brackets.length then .error .tooManyParentheses
          else goOn none (c :: brackets)
        else if c = '#' then .error .comment
        else if brackets.isEmpty && isTerminator c then
          match cs with
          | '=' :: ds =>
            if c = ':' || c = '\x7d' then .ok ([], c :: cs)
            else (expression none brackets ds).map (Prod.map (fun t => c :: '=' :: t) id)
          | _ => if c = '<' || c = '>' then goOn none brackets else .ok ([], c :: cs)
        else
          match opening? c, brackets with
          | none, _ => goOn none brackets
          | some _, [] => .error (.unmatched c)
          | some o, b :: outer => if o = b then goOn none outer else .error (.mismatched c b)

/-- Whether an expression is none. -/
def isBlank (e : List Char) : Bool :=
  e.all fun c => c = ' ' || c = '\t' || c = '\n' || c = '\x0c'

/-- An equals sign behind an expression with the blanks behind it, if there is one, and what follows. -/
def splitEquals : List Char → List Char × List Char
  | '=' :: cs =>
    let isSpace := fun (c : Char) => c = ' ' || (0x09 ≤ c.toNat && c.toNat ≤ 0x0D)
    ('=' :: cs.takeWhile isSpace, cs.dropWhile isSpace)
  | cs => ([], cs)

/-- A conversion, if there is one, and what follows. -/
def splitConversion : List Char → Except FieldFault (List Char × List Char)
  | '!' :: c :: cs => if ['s', 'r', 'a'].contains c then .ok (['!', c], cs) else .error .conversion
  | '!' :: [] => .error .unclosed
  | cs => .ok ([], cs)

/-- The fault of an expression that is none. -/
def blankFault (next : Char) : FieldFault :=
  if next = '\x7d' then .empty else .missing next

/-- How deep formats may stand in one another. -/
def depthLimit : Nat := 2

/-- The pieces of a formatted text up to where a format ends, with room for so many steps. -/
def pieces (isRaw : Bool) : Nat → Nat → List Char → List Piece × List Char
  | 0, _, cs => ([], cs)
  | room + 1, depth, cs =>
    let (t, ending) := plainText isRaw (depth = 0) false cs
    let front := pieceOf isRaw t
    match ending with
    | .fault => ([.fault (.field .singleBrace)], [])
    | .doubled rest => (pieces isRaw room depth rest).map (front :: ·) id
    | .before ('\x7b' :: rest) =>
      if depthLimit ≤ depth then ([front, .fault (.field .tooDeep)], [])
      else
        match expression none [] rest with
        | .error f => ([front, .fault (.field f)], [])
        | .ok (_, []) => ([front, .fault (.field .unclosed)], [])
        | .ok (e, next :: rest) =>
          if isBlank e then ([front, .fault (.field (blankFault next))], [])
          else
            let (equals, rest) := splitEquals (next :: rest)
            let label := if equals.isEmpty then [] else [.text (Text.ofChars (e ++ equals))]
            match splitConversion rest with
            | .error f => (front :: label ++ [.field e [] false [], .fault (.field f)], [])
            | .ok (conversion, ':' :: rest) =>
              let (format, rest) := pieces isRaw room (depth + 1) rest
              let field := .field e conversion true format
              match rest with
              | '\x7d' :: rest =>
                (pieces isRaw room depth rest).map (fun ps => front :: label ++ field :: ps) id
              | _ => (front :: label ++ [field, .fault (.field .unclosed)], [])
            | .ok (conversion, '\x7d' :: rest) =>
              let shown := if conversion.isEmpty && !label.isEmpty then ['!', 'r'] else conversion
              (pieces isRaw room depth rest).map
                (fun ps => front :: label ++ .field e shown false [] :: ps) id
            | .ok (conversion, _) =>
              (front :: label ++ [.field e conversion false [], .fault (.field .unclosed)], [])
    | .before rest => ([front], rest)

/-- The pieces of a literal that is formatted. -/
def piecesOf (p : Quoted.Parts) : List Piece :=
  (pieces p.isRaw (p.content.length + 1) 0 p.content).1

/-- The pieces of literals side by side, either all octets or all texts, some of which are formatted. -/
def piecesOfAll : Option Bool → List Quoted.Parts → List Piece
  | _, [] => []
  | octets?, p :: ps =>
    match Quoted.contentOf p with
    | .error m => [.fault m]
    | .ok content =>
      if octets?.any (· ≠ p.isOctets) then [.fault (.complaint .mixedLiterals)]
      else
        let front :=
          match content with
          | .text t => [.text t]
          | .octets _ => []
          | .formatted => piecesOf p
        front ++ piecesOfAll (some p.isOctets) ps

/-! ## Writing -/

/-- The tokens of an expression, which stands in parentheses by itself. -/
def tokensOf (e : List Char) : List Token :=
  ((Lexer.tokens ('(' :: e ++ [')'])).tokens.toList.drop 1).takeWhile fun t => t.depth ≠ 0

/-- Tokens one by one, but literals side by side together. -/
def runs : List Token → List (List Token)
  | [] => []
  | t :: ts =>
    match runs ts with
    | (u :: us) :: rest =>
      if t.kind = .quoted && u.kind = .quoted then (t :: u :: us) :: rest else [t] :: (u :: us) :: rest
    | rest => [t] :: rest

def literalsOf (ts : List Token) : List Quoted.Parts :=
  ts.map fun t => .ofChars t.text.toList

def isOneOf (texts : List String) (t : Token) : Bool :=
  t.kind = .mark && texts.contains t.text

/-- Whether an operand may end with a token. -/
def isOperand (t : Token) : Bool :=
  t.kind = .name || t.kind = .number || t.kind = .quoted || isOneOf [")", "]", "\x7d"] t

/-- Whether there is no blank between two tokens, the first one behind an operand or not. -/
def isTight (isBehind : Bool) (t u : Token) : Bool :=
  isOneOf ["(", "[", "\x7b", ".", "="] t || isOneOf [")", "]", "\x7d", ",", ":", "="] u ||
    (isOneOf ["(", "["] u && isOperand t) || (isOneOf ["."] u && t.kind ≠ .number) ||
    (isOneOf ["+", "-", "~", "*", "**"] t && !isBehind)

/-- Tokens in their spellings, the first one behind an operand or not. -/
def joinWords (isBehind : Bool) : List (Token × List Char) → List Char
  | [] => []
  | [(_, cs)] => cs
  | (t, cs) :: (u, ds) :: ws =>
    cs ++ (if isTight isBehind t u then [] else [' ']) ++ joinWords (isOperand t) ((u, ds) :: ws)

/-- A plain text in a formatted one. -/
def doubleBraces (t : Text) : Text :=
  t.flatMap fun c => if c = .ofChar '\x7b' || c = .ofChar '\x7d' then [c, c] else [c]

mutual

/-- An expression as it is written in braces, with room for so many steps into one another. It is not
written where a backslash is needed. -/
def writeExpression : Nat → List Char → Option (List Char)
  | 0, _ => none
  | n + 1, e => do
    let words ← (runs (tokensOf e)).mapM fun run =>
      let t := run.headD default
      let spelling :=
        if t.kind = .quoted then writeLiterals n (literalsOf run) else some t.settled.text.toList
      spelling.map (t, ·)
    let cs := joinWords false words
    if cs.contains '\\' then none else some (if cs.head? = some '\x7b' then ' ' :: cs else cs)

/-- Literals side by side, as they are written inside an expression. -/
def writeLiterals : Nat → List Quoted.Parts → Option (List Char)
  | 0, _ => none
  | n + 1, literals =>
    if literals.any Quoted.Parts.isFormatted then do
      let t ← writePieces n (piecesOfAll none literals)
      return 'f' :: Literal.sparing Literal.quotations t
    else
      match Quoted.formOf literals with
      | .ok (.constant (.octets b)) => some (Literal.ofBytes b).toList
      | .ok (.constant (.value (.string t))) =>
        let letters := (literals.headD ⟨[], []⟩).letters.filter (· = 'u')
        some (letters ++ Literal.sparing Literal.quotations t)
      | _ => none

/-- What a formatted text holds, as it is written between quotes yet to be picked. -/
def writePieces : Nat → List Piece → Option Text
  | 0, _ => none
  | n + 1, ps => ps.flatMapM fun
    | .text t => some (doubleBraces t)
    | .field e conversion hasFormat format => do
      let written ← writeExpression n e
      let format ← if hasFormat then (writePieces n format).map (.ofChar ':' :: ·) else some []
      return Text.ofChars ('\x7b' :: written ++ conversion) ++ format ++ [.ofChar '\x7d']
    | .fault _ => none

end

/-- Room to write literals. What stands in braces is shorter by more than it takes to get there. -/
def room (literals : List Quoted.Parts) : Nat :=
  literals.foldl (fun n p => n + p.content.length) 3

/-- Whether literals side by side, some of which are formatted, can be written. -/
def isWritable (literals : List Quoted.Parts) : Bool :=
  (writePieces (room literals) (piecesOfAll none literals)).isSome

/-- The texts between fields as one, and fields one by one, each told from the other. -/
def written? (n : Nat) : List Piece → Option (List (Bool × Text))
  | [] => some []
  | .text t :: ps => do
    match ← written? n ps with
    | (true, u) :: qs => return (true, doubleBraces t ++ u) :: qs
    | qs => return if t.isEmpty then qs else (true, doubleBraces t) :: qs
  | p :: ps => do
    let t ← writePieces n [p]
    return (false, t) :: (← written? n ps)

/-- What stands between quotes, where quotes are picked part by part, and the quotes that are left. -/
def narrow : List (List Char) → List (Bool × Text) → List Char × List (List Char)
  | quotes, [] => ([], quotes)
  | quotes, (isPlain, t) :: ps =>
    let point := if isPlain then Literal.escapePoint '\\' else Literal.sparePoint
    let (cs, quotes) := Literal.between point quotes t
    (narrow quotes ps).map (cs ++ ·) id

/-- Literals side by side as they are written, where some are formatted. -/
def write? (literals : List Quoted.Parts) : Option (List Char) := do
  let parts ← written? (room literals) (piecesOfAll none literals)
  let (cs, quotes) := narrow Literal.quotations parts
  let quote := quotes.headD []
  return 'f' :: quote ++ cs ++ quote

end MemoryShell.Source.Field
