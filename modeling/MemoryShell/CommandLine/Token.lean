import MemoryShell.Text.CodePoint

/-!
Cutting a command into words. Blanks part words, a hash starts a comment that ends the word before
it and reaches to the end of the line, and runs of operator characters are words of their own.
Single quotes keep everything; double quotes keep everything but a backslash before a double quote
or another backslash; outside quotes a backslash keeps the next character.
-/

set_option autoImplicit false

namespace MemoryShell

namespace Token

/-- Why a command is not cut into words. -/
inductive Error
  | openQuotation
  | openEscape
  deriving DecidableEq

def Error.message : Error → String
  | .openQuotation => "No closing quotation"
  | .openEscape => "No escaped character"

abbrev single : CodePoint := '\''

abbrev double : CodePoint := '"'

abbrev escape : CodePoint := '\\'

abbrev space : CodePoint := ' '

def isSeparator (c : CodePoint) : Bool :=
  c = space || c = '\t' || c = '\r' || c = '\n'

def isOperator (c : CodePoint) : Bool :=
  c = '(' || c = ')' || c = ';' || c = '<' || c = '>' || c = '|' || c = '&'

def isQuote (c : CodePoint) : Bool :=
  c = single || c = double

/-- What is being read; the code points of an unfinished word come last first. -/
inductive Mode
  | between
  | comment
  | word (read : Text)
  | operator (read : Text)
  | quoted (quote : CodePoint) (read : Text)
  | escaped (read : Text)
  | escapedInQuote (read : Text)

def Mode.finish : Mode → List Text
  | .word read => [read.reverse]
  | .operator read => [read.reverse]
  | _ => []

/-- The mode after a code point that starts something. -/
def start (c : CodePoint) : Mode :=
  if isSeparator c then .between
  else if c = '#' then .comment
  else if c = escape then .escaped []
  else if isQuote c then .quoted c []
  else if isOperator c then .operator [c]
  else .word [c]

/-- The words finished by a code point, and the mode after it. -/
def step : Mode → CodePoint → List Text × Mode
  | .between, c => ([], start c)
  | .comment, c => ([], if c = '\n' then .between else .comment)
  | .word read, c =>
    if isQuote c then ([], .quoted c read)
    else if c = escape then ([], .escaped read)
    else if isSeparator c || c = '#' || isOperator c then ([read.reverse], start c)
    else ([], .word (c :: read))
  | .operator read, c =>
    if isOperator c then ([], .operator (c :: read)) else ([read.reverse], start c)
  | .quoted quote read, c =>
    if c = quote then ([], .word read)
    else if c = escape && quote = double then ([], .escapedInQuote read)
    else ([], .quoted quote (c :: read))
  | .escaped read, c => ([], .word (c :: read))
  | .escapedInQuote read, c =>
    if c = escape || c = double then ([], .quoted double (c :: read))
    else ([], .quoted double (c :: escape :: read))

/-- The words of the text that follows a mode. -/
def scan : Mode → Text → Except Error (List Text)
  | .quoted _ _, [] => .error .openQuotation
  | .escaped _, [] => .error .openEscape
  | .escapedInQuote _, [] => .error .openEscape
  | m, [] => .ok m.finish
  | m, c :: cs => (scan (step m c).2 cs).map fun ws => (step m c).1 ++ ws

def words (cs : Text) : Except Error (List Text) :=
  scan .between cs

end Token

/-- A command cut into its name and its arguments. -/
structure Tokens where
  name : Text
  args : List Text
  deriving DecidableEq

namespace Tokens

def nameOf (word : Text) : Text :=
  if word ≠ [] && word.all Token.isOperator then [] else word

def ofWords : List Text → Tokens
  | [] => ⟨[], []⟩
  | w :: ws => ⟨nameOf w, ws.filter (· ≠ [])⟩

def ofText (command : Text) : Except Token.Error Tokens :=
  (Token.words command).map ofWords

end Tokens

end MemoryShell
