import MemoryShell.Source.Field
import MemoryShell.Source.Token

/-!
What rules of a grammar are made of. A branch is a sequence of items, and what the items stand for is
made into one value; the first branch that fits counts. Marks, line ends and what only has to follow
stand for nothing.
-/

set_option autoImplicit false

namespace MemoryShell.Source.Grammar

/-- The names of the rules. Those whose names end in `Fault` only look for what is wrong. -/
inductive Rule
  | file
  | statements
  | statement
  | simpleStatements
  | simpleStatement
  | compoundStatement
  | assignment
  | annotatedValue
  | augmentation
  | returnStatement
  | raiseStatement
  | globalStatement
  | nonlocalStatement
  | delStatement
  | yieldStatement
  | assertStatement
  | importStatement
  | importedNames
  | importedName
  | dottedAlias
  | dottedName
  | block
  | decorators
  | classDefinition
  | plainClass
  | functionDefinition
  | plainFunction
  | parameters
  | plainParameters
  | slashedParameters
  | slashedDefaults
  | starredParameters
  | doubleStarredParameter
  | parameterWithoutDefault
  | starAnnotatedParameter
  | parameterWithDefault
  | parameterMaybeDefault
  | parameter
  | starAnnotatedName
  | parameterType
  | defaultValue
  | ifStatement
  | elifStatement
  | elseBlock
  | whileStatement
  | forStatement
  | withStatement
  | withItem
  | tryStatement
  | exceptBlock
  | exceptStarBlock
  | finallyBlock
  | matchStatement
  | subjectExpression
  | caseBlock
  | caseCondition
  | patterns
  | pattern
  | asPattern
  | orPattern
  | closedPattern
  | literalPattern
  | literalExpression
  | complexNumber
  | signedNumber
  | signedReal
  | capturePattern
  | captureTarget
  | wildcardPattern
  | valuePattern
  | dottedValue
  | nameOrDotted
  | groupPattern
  | sequencePattern
  | openSequence
  | maybeSequence
  | maybeStarPattern
  | starPattern
  | mappingPattern
  | itemPatterns
  | itemPattern
  | doubleStarPattern
  | classPattern
  | positionalPatterns
  | keywordPatterns
  | keywordPattern
  | expressions
  | expression
  | yieldExpression
  | starExpressions
  | starExpression
  | starNamedExpressions
  | starNamedExpression
  | assignmentExpression
  | namedExpression
  | disjunction
  | conjunction
  | inversion
  | comparison
  | comparedOperand
  | bitwiseOr
  | bitwiseXor
  | bitwiseAnd
  | shiftExpression
  | arithmetic
  | product
  | signed
  | power
  | awaitPrimary
  | primary
  | slices
  | slice
  | atom
  | groupExpression
  | lambdaExpression
  | lambdaParameters
  | plainLambdaParameters
  | slashedLambdaParameters
  | slashedLambdaDefaults
  | starredLambdaParameters
  | doubleStarredLambdaParameter
  | lambdaParameterWithoutDefault
  | lambdaParameterWithDefault
  | lambdaParameterMaybeDefault
  | lambdaParameter
  | literals
  | listDisplay
  | tupleDisplay
  | setDisplay
  | dictionaryDisplay
  | dictionaryItems
  | dictionaryItem
  | keyValuePair
  | comprehensionClauses
  | comprehensionClause
  | listComprehension
  | setComprehension
  | generatorExpression
  | dictionaryComprehension
  | arguments
  | plainArguments
  | keywordArguments
  | starredArgument
  | keywordOrStarred
  | keywordOrDoubleStarred
  | starTargets
  | starTargetList
  | starTargetTuple
  | starTarget
  | starAtomTarget
  | starAtom
  | singleTarget
  | memberTarget
  | targetPrimary
  | targetGoesOn
  | delTargets
  | delTarget
  | delAtom
  | argumentsFault
  | keywordFault
  | quietExpression
  | legacyFault
  | expressionFault
  | namedExpressionFault
  | assignmentFault
  | annotatedDisplay
  | delFault
  | blockFault
  | comprehensionFault
  | dictionaryComprehensionFault
  | parametersFault
  | defaultedParameters
  | defaultFault
  | starredParametersFault
  | doubleStarredParameterFault
  | lambdaParametersFault
  | defaultedLambdaParameters
  | starredLambdaParametersFault
  | doubleStarredLambdaParameterFault
  | withItemFault
  | forTargetFault
  | groupFault
  | importFault
  | withFault
  | withBlockFault
  | tryFault
  | exceptFault
  | finallyFault
  | exceptBlockFault
  | exceptStarBlockFault
  | matchFault
  | caseFault
  | asPatternFault
  | classPatternFault
  | misplacedPatterns
  | ifFault
  | elifFault
  | elseFault
  | whileFault
  | forFault
  | functionFault
  | classFault
  | dictionaryItemsFault
  | dictionaryItemFault
  deriving DecidableEq

/-- What has been recognised: trees with the lines that they start in, tokens, or several of
them. -/
inductive Value
  | nothing
  | token (t : Token)
  | tree (line : Nat) (t : Tree)
  | pair (a b : Value)
  | list (vs : List Value)

instance : Inhabited Value := ⟨.nothing⟩

mutual

/-- The trees of a value, in order. -/
def Value.trees : Value → List Tree
  | .nothing => []
  | .token _ => []
  | .tree _ t => [t]
  | .pair a b => a.trees ++ b.trees
  | .list vs => Value.treesAll vs

def Value.treesAll : List Value → List Tree
  | [] => []
  | v :: vs => v.trees ++ Value.treesAll vs

end

def Value.line? : Value → Option Nat
  | .token t => some t.line
  | .tree line _ => some line
  | .pair (.tree line _) _ => some line
  | .list (.tree line _ :: _) => some line
  | _ => none

def Value.items : Value → List Value
  | .list vs => vs
  | _ => []

def Value.id : Value → String
  | .tree _ (.node _ (.name id) _) => id
  | _ => ""

/-- What is made of what the items of a branch stand for: a value, or a tree that starts where the
branch does. It may be a formatted text, whose expressions are yet to be read. It may also show that no
other branch fits either, or that something is wrong, in some line or in the last one that has been
looked at. -/
inductive Made
  | value (v : Value)
  | tree (t : Tree)
  | formatted (isWritable : Bool) (pieces : List Field.Piece)
  | nothing
  | fault (m : Malformation) (line? : Option Nat)

mutual

/-- A part of a branch. -/
inductive Item
  | mark (text : String)
  | seen (text : String)
  | forced (text : String)
  | soft (text : String)
  | softStart
  | name
  | number
  | quoted
  | lineEnd
  | indent
  | unindent
  | ending
  | last
  | rule (r : Rule)
  | optional (i : Item)
  | many (i : Item)
  | atLeastOne (i : Item)
  | separated (i : Item)
  | oneOf (branches : List Branch)
  | ahead (i : Item)
  | notAhead (i : Item)
  | cut

/-- A sequence of items, and what is made of what they stand for. -/
inductive Branch
  | mk (items : List Item) (make : List Value → Made)

end

instance : Coe String Item := ⟨.mark⟩

instance : Coe Rule Item := ⟨.rule⟩

/-- Whether an item stands for nothing. -/
def Item.isSilent : Item → Bool
  | .mark _ => true
  | .forced _ => true
  | .lineEnd => true
  | .indent => true
  | .unindent => true
  | .ending => true
  | .ahead _ => true
  | .notAhead _ => true
  | .cut => true
  | .optional i => i.isSilent
  | _ => false

/-- How a rule is read. What it stands for may be remembered; it may look for faults only, or for
none at all. What it has recognised may go on, with what stands to the left as the first value. -/
structure Definition where
  branches : List Branch
  goingOn : List Branch
  isRemembered : Bool
  isFault : Bool
  isQuiet : Bool

namespace Branch

def same (items : List Item) : Branch :=
  .mk items fun vs => .value (vs.head?.getD .nothing)

def collect (items : List Item) : Branch :=
  .mk items fun vs => .value (.list vs)

def node (form : Form) (items : List Item) : Branch :=
  .mk items fun vs => .tree (.make form (Value.treesAll vs))

def fault (m : Malformation) (items : List Item) : Branch :=
  .mk items fun _ => .fault m none

def faultAt (place : Nat) (m : Malformation) (items : List Item) : Branch :=
  .mk items fun vs => .fault m ((vs[place]?).bind Value.line?)

def complain (place : Nat) (c : Complaint) (items : List Item) : Branch :=
  faultAt place (.complaint c) items

/-- A branch that stands for a fault about the kind of its first value. -/
def faultOfKind (m : Kind → Malformation) (items : List Item) : Branch :=
  .mk items fun vs =>
    match vs.head? with
    | some (.tree line t) => .fault (m t.kind) (some line)
    | _ => .nothing

/-- A branch that stands for a fault where its last value cannot be a target. -/
def faultOfTarget (use : Tree.Use) (m : Kind → Malformation) (items : List Item) : Branch :=
  .mk items fun vs =>
    match vs.getLast? with
    | some (.tree line t) =>
      match t.unassignable? use with
      | some k => .fault (m k) (some line)
      | none => .nothing
    | _ => .nothing

def blockless (opener : String) (items : List Item) : Branch :=
  .mk (items ++ [.lineEnd, .notAhead .indent]) fun vs =>
    .fault (.missingBlockAfter opener (((vs.head?).bind Value.line?).getD 0)) none

end Branch

def anyOf (items : List Item) : Item :=
  .oneOf (items.map fun i => .same [i])

def sequence (items : List Item) : Item :=
  .oneOf [.same items]

def plain (branches : List Branch) : Definition :=
  ⟨branches, [], false, false, false⟩

def remembered (branches : List Branch) : Definition :=
  ⟨branches, [], true, false, false⟩

def goesOn (branches goingOn : List Branch) : Definition :=
  ⟨branches, goingOn, true, false, false⟩

def faulty (branches : List Branch) : Definition :=
  ⟨branches, [], false, true, false⟩

end MemoryShell.Source.Grammar
