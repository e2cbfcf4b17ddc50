import MemoryShell.Text.Literal
import MemoryShell.Json.Parser

/-!
What keeps a source from being read. Some faults lie in the characters, some in the brackets and
margins, some in the contents of literals, and most in what stands beside what.
-/

set_option autoImplicit false

namespace MemoryShell.Source

/-- What an expression is called. -/
inductive Kind
  | name
  | attribute
  | subscript
  | starred
  | call
  | operation
  | comparison
  | conditional
  | lambda
  | named
  | await
  | yielding
  | tuple
  | list
  | set
  | dictionary
  | generator
  | listComprehension
  | setComprehension
  | dictionaryComprehension
  | formatted
  | slice
  | literal
  | ellipsis
  | constant (word : String)
  deriving DecidableEq

def Kind.words : Kind → String
  | .name => "name"
  | .attribute => "attribute"
  | .subscript => "subscript"
  | .starred => "starred"
  | .call => "function call"
  | .operation => "expression"
  | .comparison => "comparison"
  | .conditional => "conditional expression"
  | .lambda => "lambda"
  | .named => "named expression"
  | .await => "await expression"
  | .yielding => "yield expression"
  | .tuple => "tuple"
  | .list => "list"
  | .set => "set display"
  | .dictionary => "dict literal"
  | .generator => "generator expression"
  | .listComprehension => "list comprehension"
  | .setComprehension => "set comprehension"
  | .dictionaryComprehension => "dict comprehension"
  | .formatted => "f-string expression"
  | .slice => "slice"
  | .literal => "literal"
  | .ellipsis => "ellipsis"
  | .constant word => word

/-- The ways to write a number. -/
inductive Radix
  | decimal
  | hexadecimal
  | octal
  | binary
  | imaginary
  deriving DecidableEq

def Radix.words : Radix → String
  | .decimal => "decimal"
  | .hexadecimal => "hexadecimal"
  | .octal => "octal"
  | .binary => "binary"
  | .imaginary => "imaginary"

/-- What is wrong with an escape that names a character. -/
inductive EscapeFault
  | truncated (shape : String)
  | unknownName
  | malformedName
  | outOfRange
  deriving DecidableEq

def EscapeFault.words : EscapeFault → String
  | .truncated shape => "truncated \\" ++ shape ++ " escape"
  | .unknownName => "unknown Unicode character name"
  | .malformedName => "malformed \\N character escape"
  | .outOfRange => "illegal Unicode character"

/-- What is wrong with what stands beside what, where nothing but its place need be known. -/
inductive Complaint
  | unexpected
  | missingComma
  | missingElse
  | meantEquality
  | annotatedTarget
  | annotatedTuple
  | yieldTarget
  | unpackingOrder
  | bareGenerator
  | positionalAfterUnpacking
  | positionalAfterKeyword
  | keywordTarget
  | starredElement
  | doubleStarredElement
  | bareTarget
  | defaultOrder
  | parenthesizedParameters
  | parenthesizedLambda
  | leadingSlash
  | repeatedSlash
  | lateSlash
  | slashStar
  | missingDefault
  | bareStar
  | starDefault
  | repeatedStar
  | doubleStarDefault
  | afterDoubleStar
  | starredGroup
  | doubleStarredGroup
  | trailingComma
  | missingHandler
  | mixedHandlers
  | severalHandled
  | nothingHandled
  | wildcardTarget
  | patternTarget
  | patternOrder
  | missingColonInPair
  | starredValue
  | missingValue
  | realPart
  | imaginaryPart
  | octetCharacter
  | mixedLiterals
  deriving DecidableEq

def Complaint.words : Complaint → String
  | .unexpected => "invalid syntax"
  | .missingComma => "invalid syntax. Perhaps you forgot a comma?"
  | .missingElse => "expected 'else' after 'if' expression"
  | .meantEquality => "invalid syntax. Maybe you meant '==' or ':=' instead of '='?"
  | .annotatedTarget => "illegal target for annotation"
  | .annotatedTuple => "only single target (not tuple) can be annotated"
  | .yieldTarget => "assignment to yield expression not possible"
  | .unpackingOrder => "iterable argument unpacking follows keyword argument unpacking"
  | .bareGenerator => "Generator expression must be parenthesized"
  | .positionalAfterUnpacking => "positional argument follows keyword argument unpacking"
  | .positionalAfterKeyword => "positional argument follows keyword argument"
  | .keywordTarget => "expression cannot contain assignment, perhaps you meant \"==\"?"
  | .starredElement => "iterable unpacking cannot be used in comprehension"
  | .doubleStarredElement => "dict unpacking cannot be used in dict comprehension"
  | .bareTarget => "did you forget parentheses around the comprehension target?"
  | .defaultOrder => "non-default argument follows default argument"
  | .parenthesizedParameters => "Function parameters cannot be parenthesized"
  | .parenthesizedLambda => "Lambda expression parameters cannot be parenthesized"
  | .leadingSlash => "at least one argument must precede /"
  | .repeatedSlash => "/ may appear only once"
  | .lateSlash => "/ must be ahead of *"
  | .slashStar => "expected comma between / and *"
  | .missingDefault => "expected default value expression"
  | .bareStar => "named arguments must follow bare *"
  | .starDefault => "var-positional argument cannot have default value"
  | .repeatedStar => "* argument may appear only once"
  | .doubleStarDefault => "var-keyword argument cannot have default value"
  | .afterDoubleStar => "arguments cannot follow var-keyword argument"
  | .starredGroup => "cannot use starred expression here"
  | .doubleStarredGroup => "cannot use double starred expression here"
  | .trailingComma => "trailing comma not allowed without surrounding parentheses"
  | .missingHandler => "expected 'except' or 'finally' block"
  | .mixedHandlers => "cannot have both 'except' and 'except*' on the same 'try'"
  | .severalHandled => "multiple exception types must be parenthesized"
  | .nothingHandled => "expected one or more exception types"
  | .wildcardTarget => "cannot use '_' as a target"
  | .patternTarget => "invalid pattern target"
  | .patternOrder => "positional patterns follow keyword patterns"
  | .missingColonInPair => "':' expected after dictionary key"
  | .starredValue => "cannot use a starred expression in a dictionary value"
  | .missingValue => "expression expected after dictionary key and ':'"
  | .realPart => "real number required in complex literal"
  | .imaginaryPart => "imaginary number required in complex literal"
  | .octetCharacter => "bytes can only contain ASCII literal characters"
  | .mixedLiterals => "cannot mix bytes and nonbytes literals"

/-- What is wrong with a field of a formatted text. -/
inductive FieldFault
  | unclosed
  | singleBrace
  | empty
  | missing (before : Char)
  | backslash
  | comment
  | conversion
  | tooDeep
  | tooManyParentheses
  | unmatched (bracket : Char)
  | mismatched (closing opening : Char)
  | unterminated
  deriving DecidableEq

/-- What is wrong with the text of a source. Lines are counted from one. What is wrong in an expression of a
formatted text is told as such. -/
inductive Malformation
  | character (c : Char)
  | number (radix : Radix)
  | digit (c : Char) (radix : Radix)
  | leadingZeros
  | longNumber (digits : Nat)
  | unterminated (isBlock : Bool) (line : Nat)
  | octetEscape (position : Nat)
  | escape (fault : EscapeFault) (first last : Nat)
  | tooManyParentheses
  | unmatched (closing : Char)
  | mismatched (closing opening : Char)
  | mismatchedAcross (closing opening : Char) (line : Nat)
  | neverClosed (opening : Char)
  | endOfText
  | continuation
  | tooMuchIndentation
  | unevenIndentation
  | mixedIndentation
  | unexpectedIndent
  | unexpectedUnindent
  | missingBlock
  | missingBlockAfter (opener : String) (line : Nat)
  | expected (mark : String)
  | assignment (kind : Kind)
  | comparison (kind : Kind)
  | annotated (kind : Kind)
  | namedTarget (kind : Kind)
  | augmented (kind : Kind)
  | deletion (kind : Kind)
  | statementCall (word : String)
  | complaint (c : Complaint)
  | field (f : FieldFault)
  | inField (m : Malformation)
  deriving DecidableEq

namespace Malformation

def codePoint (c : Char) : String :=
  let width := if c.toNat < 0x10000 then 4 else if c.toNat < 0x100000 then 5 else 6
  String.ofList ((Literal.hex width c.toNat).map Char.toUpper)

/-- The words for a character that belongs to no word; one that cannot be shown has its number
only. -/
def characterWords (c : Char) : String :=
  if Text.isPrintable (.ofChar c) then
    "invalid character '" ++ String.singleton c ++ "' (U+" ++ codePoint c ++ ")"
  else "invalid non-printable character U+" ++ codePoint c

def shown (n : Nat) : String :=
  String.ofList (Text.writeNat n)

def mismatchWords (closing opening : Char) : String :=
  "closing parenthesis '" ++ String.singleton closing ++ "' does not match opening parenthesis '"
    ++ String.singleton opening ++ "'"

end Malformation

def FieldFault.words : FieldFault → String
  | .unclosed => "f-string: expecting '\x7d'"
  | .singleBrace => "f-string: single '\x7d' is not allowed"
  | .empty => "f-string: empty expression not allowed"
  | .missing before =>
    "f-string: expression required before '" ++ String.singleton before ++ "'"
  | .backslash => "f-string expression part cannot include a backslash"
  | .comment => "f-string expression part cannot include '#'"
  | .conversion => "f-string: invalid conversion character: expected 's', 'r', or 'a'"
  | .tooDeep => "f-string: expressions nested too deeply"
  | .tooManyParentheses => "f-string: too many nested parenthesis"
  | .unmatched bracket => "f-string: unmatched '" ++ String.singleton bracket ++ "'"
  | .mismatched closing opening => "f-string: " ++ Malformation.mismatchWords closing opening
  | .unterminated => "f-string: unterminated string"

namespace Malformation

def reason : Malformation → String
  | .character c => characterWords c
  | .number radix => "invalid " ++ radix.words ++ " literal"
  | .digit c radix =>
    "invalid digit '" ++ String.singleton c ++ "' in " ++ radix.words ++ " literal"
  | .leadingZeros =>
    "leading zeros in decimal integer literals are not permitted; "
      ++ "use an 0o prefix for octal integers"
  | .longNumber digits =>
    Json.longIntegerMessage digits
      ++ " - Consider hexadecimal for huge integer literals to avoid decimal conversion limits."
  | .unterminated isBlock line =>
    "unterminated " ++ (if isBlock then "triple-quoted string" else "string")
      ++ " literal (detected at line " ++ shown line ++ ")"
  | .octetEscape position => "(value error) invalid \\x escape at position " ++ shown position
  | .escape fault first last =>
    "(unicode error) 'unicodeescape' codec can't decode bytes in position " ++ shown first ++ "-"
      ++ shown last ++ ": " ++ fault.words
  | .tooManyParentheses => "too many nested parentheses"
  | .unmatched closing => "unmatched '" ++ String.singleton closing ++ "'"
  | .mismatched closing opening => mismatchWords closing opening
  | .mismatchedAcross closing opening line =>
    mismatchWords closing opening ++ " on line " ++ shown line
  | .neverClosed opening => "'" ++ String.singleton opening ++ "' was never closed"
  | .endOfText => "unexpected EOF while parsing"
  | .continuation => "unexpected character after line continuation character"
  | .tooMuchIndentation => "too many levels of indentation"
  | .unevenIndentation => "unindent does not match any outer indentation level"
  | .mixedIndentation => "inconsistent use of tabs and spaces in indentation"
  | .unexpectedIndent => "unexpected indent"
  | .unexpectedUnindent => "unexpected unindent"
  | .missingBlock => "expected an indented block"
  | .missingBlockAfter opener line =>
    "expected an indented block after " ++ opener ++ " on line " ++ shown line
  | .expected mark => "expected '" ++ mark ++ "'"
  | .assignment kind => "cannot assign to " ++ kind.words
  | .comparison kind =>
    "cannot assign to " ++ kind.words ++ " here. Maybe you meant '==' instead of '='?"
  | .annotated kind => "only single target (not " ++ kind.words ++ ") can be annotated"
  | .namedTarget kind => "cannot use assignment expressions with " ++ kind.words
  | .augmented kind =>
    "'" ++ kind.words ++ "' is an illegal expression for augmented assignment"
  | .deletion kind => "cannot delete " ++ kind.words
  | .statementCall word =>
    "Missing parentheses in call to '" ++ word ++ "'. Did you mean " ++ word ++ "(...)?"
  | .complaint c => c.words
  | .field f => f.words
  | .inField m => "f-string: " ++ m.reason

/-- Whether a malformation lies in the characters, which are looked at before what they spell is. -/
def isLexical : Malformation → Bool
  | .character _ => true
  | .number _ => true
  | .digit _ _ => true
  | .leadingZeros => true
  | .unterminated _ _ => true
  | .tooManyParentheses => true
  | .unmatched _ => true
  | .mismatched _ _ => true
  | .mismatchedAcross _ _ _ => true
  | _ => false

/-- What is wrong with an expression of a formatted text. What has been told of characters, or of such an
expression inside, is told as it is. -/
def within (m : Malformation) : Malformation :=
  match m with
  | .inField _ => m
  | _ => if m.isLexical then m else .inField m

/-- Whether a malformation lies in the margin. -/
def isMarginal : Malformation → Bool
  | .tooMuchIndentation => true
  | .unevenIndentation => true
  | .unexpectedIndent => true
  | .unexpectedUnindent => true
  | .missingBlock => true
  | .missingBlockAfter _ _ => true
  | _ => false

def className (m : Malformation) : String :=
  if m = .mixedIndentation then "TabError"
  else if m.isMarginal then "IndentationError"
  else "SyntaxError"

end Malformation

end MemoryShell.Source
