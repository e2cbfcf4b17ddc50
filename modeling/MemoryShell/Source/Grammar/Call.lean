import MemoryShell.Source.Grammar.Expression

/-!
The rules of arguments. Positional arguments and unpacked sequences come first, then arguments by
name, and mappings that are unpacked come last.
-/

set_option autoImplicit false

namespace MemoryShell.Source.Grammar

open Rule Branch

def makeKeyword (vs : List Value) : Made :=
  .tree (.node .keyword .part (Value.treesAll (vs.drop 1)))

def makeUnpackedMapping (vs : List Value) : Made :=
  .tree (.node .keyword (.compound .starred) (Value.treesAll vs))

def asArgument (t : Tree) : Tree :=
  if t.role = .keyword then t else t.as .argument

def makeArguments (vs : List Value) : Made :=
  let trees := (Value.treesAll vs).map asArgument
  let ordered := trees.filter (·.role ≠ .keyword) ++ trees.filter (·.role = .keyword)
  .value (.list (ordered.map (.tree (((vs.head?).bind Value.line?).getD 0))))

def positional : Item :=
  anyOf [starredArgument, sequence [unnamed, .notAhead "="]]

/-- What is wrong with arguments after ones by name. -/
def orderFault (vs : List Value) : Made :=
  let keywords := (Value.treesAll (vs.take 1)).filter (·.role = .keyword)
  .fault (.complaint
    (if keywords.any fun t => t.form matches .compound _ then .positionalAfterUnpacking
      else .positionalAfterKeyword)) none

def bareGeneratorFault (vs : List Value) : Made :=
  let args := (Value.treesAll (vs.take 1)).filter (·.role = .argument)
  if args.length ≤ 1 then .nothing
  else .fault (.complaint .bareGenerator) ((vs.head?).bind Value.line?)

def formerStatements : List String :=
  ["print", "exec"]

def isFormerStatement (v : Value) : Bool :=
  formerStatements.contains v.id

/-- What is wrong where an expression stands right behind another one. -/
def adjacencyFault : List Value → Made
  | [a, _, .token t] =>
    if isFormerStatement a || t.depth = 0 then .nothing
    else .fault (.complaint .missingComma) a.line?
  | _ => .nothing

def formerStatementFault : List Value → Made
  | a :: _ =>
    if isFormerStatement a then .fault (.statementCall a.id) a.line? else .nothing
  | [] => .nothing

/-- The rules of arguments, and those that look for faults in expressions. -/
def callRules : Rule → Option Definition
  | .arguments => some <| remembered [
    same [plainArguments, .optional ",", .ahead ")"],
    same [argumentsFault]]
  | .plainArguments => some <| plain [
    .mk [.separated positional, .optional (sequence [",", keywordArguments])] makeArguments,
    .mk [keywordArguments] makeArguments]
  | .keywordArguments => some <| plain [
    collect [.separated keywordOrStarred, ",", .separated keywordOrDoubleStarred],
    same [.separated keywordOrStarred],
    same [.separated keywordOrDoubleStarred]]
  | .starredArgument => some <| plain [node (.compound .starred) ["*", expression]]
  | .keywordOrStarred => some <| plain [
    same [keywordFault],
    .mk [.name, "=", expression] makeKeyword,
    same [starredArgument]]
  | .keywordOrDoubleStarred => some <| plain [
    same [keywordFault],
    .mk [.name, "=", expression] makeKeyword,
    .mk ["**", expression] makeUnpackedMapping]
  | .argumentsFault => some <| faulty [
    complain 0 .unpackingOrder [plainArguments, ",", "*"],
    complain 0 .bareGenerator [expression, comprehensionClauses, ",",
      .optional (.oneOf [same [plainArguments], collect [expression, comprehensionClauses]])],
    complain 0 .meantEquality [.name, "=", expression, comprehensionClauses],
    .mk [plainArguments, comprehensionClauses] bareGeneratorFault,
    complain 1 .bareGenerator [plainArguments, ",", expression, comprehensionClauses],
    .mk [plainArguments, ",", plainArguments] orderFault]
  | .keywordFault => some <| faulty [
    faultAt 0 (.assignment (.constant "True")) [.seen "True", "="],
    faultAt 0 (.assignment (.constant "False")) [.seen "False", "="],
    faultAt 0 (.assignment (.constant "None")) [.seen "None", "="],
    complain 0 .meantEquality [.name, "=", expression, comprehensionClauses],
    complain 0 .keywordTarget [.notAhead (.oneOf [collect [.name, "="]]), expression, "="]]
  | .expressionFault => some <| faulty [
    .mk [.notAhead (.oneOf [collect [.name, .quoted], same [.softStart]]), disjunction,
      quietExpression, .last] adjacencyFault,
    complain 0 .missingElse
      [disjunction, "if", disjunction, .notAhead (anyOf ["else", ":"])]]
  | .legacyFault => some <| faulty [
    .mk [.name, .notAhead "(", starExpressions] formerStatementFault]
  | .namedExpressionFault => some { faulty [
    faultOfKind .namedTarget [expression, ":=", expression],
    complain 0 .meantEquality [.name, "=", bitwiseOr, .notAhead (anyOf ["=", ":="])],
    faultOfKind .comparison
      [.notAhead (anyOf [listDisplay, tupleDisplay, generatorExpression, "True", "None", "False"]),
        bitwiseOr, "=", bitwiseOr, .notAhead (anyOf ["=", ":="])]] with isRemembered := true }
  | .comprehensionFault => some <| faulty [
    complain 1 .starredElement
      [anyOf ["[", "(", "\x7b"], starredArgument, comprehensionClauses],
    complain 1 .bareTarget
      [anyOf ["[", "\x7b"], starNamedExpression, ",", starNamedExpressions,
        comprehensionClauses],
    complain 1 .bareTarget
      [anyOf ["[", "\x7b"], starNamedExpression, ",", comprehensionClauses]]
  | .dictionaryComprehensionFault => some <| faulty [
    complain 0 .doubleStarredElement
      ["\x7b", .seen "**", bitwiseOr, comprehensionClauses, "\x7d"]]
  | .groupFault => some <| faulty [
    complain 0 .starredGroup ["(", starredArgument, ")"],
    complain 0 .doubleStarredGroup ["(", .seen "**", expression, ")"]]
  | .dictionaryItemsFault => some <| plain [
    same [.separated dictionaryItem, ",", dictionaryItemFault],
    complain 1 .starredValue [expression, ":", .seen "*", bitwiseOr],
    complain 1 .missingValue [expression, .seen ":", .ahead (anyOf ["\x7d", ","])]]
  | .dictionaryItemFault => some <| plain [
    complain 0 .missingColonInPair [expression, .notAhead ":"],
    complain 1 .starredValue [expression, ":", .seen "*", bitwiseOr],
    complain 1 .missingValue [expression, .seen ":", .ahead (anyOf ["\x7d", ","])]]
  | _ => none

end MemoryShell.Source.Grammar
