import MemoryShell.Source.Grammar.Rule

/-!
The rules of expressions. Operators bind from `or` down to the power; what is called, subscripted or
asked for an attribute binds closest.
-/

set_option autoImplicit false

namespace MemoryShell.Source.Grammar

open Rule Branch

def operation (operator : String) (operand : Rule) : Branch :=
  node (.compound .operation) [operator, operand]

def comparedWith (operators : List String) : Branch :=
  .mk (operators.map Item.mark ++ [.rule bitwiseOr]) fun vs =>
    .value (.pair (if operators = ["in"] then .list [] else .nothing) (.list vs))

def comparisonForm : List Value → Form
  | _ :: .list (.pair (.list _) _ :: _) :: _ => .membership
  | _ => .compound .comparison

def makeComparison (vs : List Value) : Made :=
  .tree (.make (comparisonForm vs) (Value.treesAll vs))

def makeConditional : List Value → Made
  | [a, condition, b] =>
    .tree (.make (.compound .conditional) (condition.trees ++ a.trees ++ b.trees))
  | _ => .nothing

def makeAttribute : List Value → Made
  | [owner, id] => .tree (.make (.attribute id.id) owner.trees)
  | _ => .nothing

def makeCallWithOne : List Value → Made
  | [callee, arg] => .tree (.make .call (callee.trees ++ arg.trees.map (Tree.as .argument)))
  | _ => .nothing

/-- The way that attributes, calls and subscripts go on. -/
def memberSteps (follow : List Item) : List Branch := [
  .mk (.mark "." :: .name :: follow) makeAttribute,
  .mk (.rule generatorExpression :: follow) makeCallWithOne,
  node .call (.mark "(" :: .optional arguments :: .mark ")" :: follow),
  node (.compound .subscript) (.mark "[" :: .rule slices :: .mark "]" :: follow)]

/-- The literals side by side that tokens are. -/
def makeLiterals (vs : List Value) : Made :=
  let literals := (vs.flatMap Value.items).map fun
    | .token t => Quoted.Parts.ofChars t.text.toList
    | _ => ⟨[], []⟩
  if literals.any Quoted.Parts.isFormatted then
    .formatted (Field.isWritable literals) (Field.piecesOfAll none literals)
  else
    match Quoted.formOf literals with
    | .ok form => .tree (.make form [])
    | .error m => .fault m none

def constantWord (word : String) (v : Json) : Branch :=
  node (.constant (.value v)) [word]

/-- A dictionary, whose keys come before its values. -/
def makeDictionary (vs : List Value) : Made :=
  let pairs := vs.flatMap Value.items
  let keys := pairs.flatMap fun
    | .pair k _ => k.trees
    | _ => []
  let values := pairs.flatMap fun
    | .pair _ v => v.trees
    | _ => []
  .tree (.make (.compound .dictionary) (keys ++ values))

def makePair : List Value → Made
  | [a, b] => .value (.pair a b)
  | _ => .nothing

def makeUnpacked : List Value → Made
  | [v] => .value (.pair .nothing v)
  | _ => .nothing

def clauseItems : List Item :=
  ["for", starTargets, "in", .cut, disjunction, .many (sequence ["if", disjunction])]

def unnamed : Item :=
  .oneOf [same [assignmentExpression], same [expression, .notAhead ":="]]

def expressionRules : Rule → Option Definition
  | .expressions => some <| plain [
    node (.compound .tuple)
      [expression, .atLeastOne (sequence [",", expression]), .optional ","],
    node (.compound .tuple) [expression, ","],
    same [expression]]
  | .expression => some <| remembered [
    same [expressionFault],
    same [legacyFault],
    .mk [disjunction, "if", disjunction, "else", expression] makeConditional,
    same [disjunction],
    same [lambdaExpression]]
  | .quietExpression => some ⟨[
    .mk [disjunction, "if", disjunction, "else", expression] makeConditional,
    same [disjunction],
    same [lambdaExpression]], [], false, false, true⟩
  | .yieldExpression => some <| plain [
    node (.compound .yielding) ["yield", "from", expression],
    node (.compound .yielding) ["yield", .optional starExpressions]]
  | .starExpressions => some <| plain [
    node (.compound .tuple)
      [starExpression, .atLeastOne (sequence [",", starExpression]), .optional ","],
    node (.compound .tuple) [starExpression, ","],
    same [starExpression]]
  | .starExpression => some <| remembered [
    node (.compound .starred) ["*", bitwiseOr],
    same [expression]]
  | .starNamedExpressions => some <| plain [
    same [.separated starNamedExpression, .optional ","]]
  | .starNamedExpression => some <| plain [
    node (.compound .starred) ["*", bitwiseOr],
    same [namedExpression]]
  | .assignmentExpression => some <| plain [
    node (.compound .named) [.name, ":=", .cut, expression]]
  | .namedExpression => some <| plain [
    same [assignmentExpression],
    same [namedExpressionFault],
    same [expression, .notAhead ":="]]
  | .disjunction => some <| remembered [
    node (.compound .operation) [conjunction, .atLeastOne (sequence ["or", conjunction])],
    same [conjunction]]
  | .conjunction => some <| remembered [
    node (.compound .operation) [inversion, .atLeastOne (sequence ["and", inversion])],
    same [inversion]]
  | .inversion => some <| remembered [
    node (.compound .operation) ["not", inversion],
    same [comparison]]
  | .comparison => some <| plain [
    .mk [bitwiseOr, .atLeastOne comparedOperand] makeComparison,
    same [bitwiseOr]]
  | .comparedOperand => some <| plain [
    comparedWith ["=="], comparedWith ["!="], comparedWith ["<="], comparedWith ["<"],
    comparedWith [">="], comparedWith [">"], comparedWith ["not", "in"], comparedWith ["in"],
    comparedWith ["is", "not"], comparedWith ["is"]]
  | .bitwiseOr => some <| goesOn [same [bitwiseXor]] [operation "|" bitwiseXor]
  | .bitwiseXor => some <| goesOn [same [bitwiseAnd]] [operation "^" bitwiseAnd]
  | .bitwiseAnd => some <| goesOn [same [shiftExpression]] [operation "&" shiftExpression]
  | .shiftExpression =>
    some <| goesOn [same [arithmetic]] [operation "<<" arithmetic, operation ">>" arithmetic]
  | .arithmetic => some <| goesOn [same [product]] [operation "+" product, operation "-" product]
  | .product => some <| goesOn [same [signed]] [
    operation "*" signed, operation "/" signed, operation "//" signed, operation "%" signed,
    operation "@" signed]
  | .signed => some <| remembered [
    operation "+" signed, operation "-" signed, operation "~" signed, same [power]]
  | .power => some <| plain [
    node (.compound .operation) [awaitPrimary, "**", signed],
    same [awaitPrimary]]
  | .awaitPrimary => some <| remembered [
    node (.compound .await) ["await", primary],
    same [primary]]
  | .primary => some <| goesOn [same [atom]] (memberSteps [])
  | .slices => some <| plain [
    same [slice, .notAhead ","],
    node (.compound .tuple) [.separated (anyOf [slice, starredArgument]), .optional ","]]
  | .slice => some <| plain [
    node (.compound .slice)
      [.optional expression, ":", .optional expression,
        .optional (sequence [":", .optional expression])],
    same [namedExpression]]
  | .atom => some <| plain [
    same [.name],
    constantWord "True" (.bool true),
    constantWord "False" (.bool false),
    constantWord "None" .null,
    same [literals],
    same [.number],
    same [.ahead "(", anyOf [tupleDisplay, groupExpression, generatorExpression]],
    same [.ahead "[", anyOf [listDisplay, listComprehension]],
    same [.ahead "\x7b",
      anyOf [dictionaryDisplay, setDisplay, dictionaryComprehension, setComprehension]],
    node (.constant .ellipsis) ["..."]]
  | .groupExpression => some <| plain [
    same ["(", anyOf [yieldExpression, namedExpression], ")"],
    same [groupFault]]
  | .literals => some <| remembered [.mk [.atLeastOne .quoted] makeLiterals]
  | .listDisplay => some <| plain [
    node (.compound .list) ["[", .optional starNamedExpressions, "]"]]
  | .tupleDisplay => some <| plain [
    node (.compound .tuple)
      ["(", .optional (.oneOf [collect [starNamedExpression, ",",
        .optional starNamedExpressions]]), ")"]]
  | .setDisplay => some <| plain [
    node (.compound .set) ["\x7b", starNamedExpressions, "\x7d"]]
  | .dictionaryDisplay => some <| plain [
    .mk ["\x7b", .optional dictionaryItems, "\x7d"] makeDictionary,
    same ["\x7b", dictionaryItemsFault, "\x7d"]]
  | .dictionaryItems => some <| plain [same [.separated dictionaryItem, .optional ","]]
  | .dictionaryItem => some <| plain [
    .mk ["**", bitwiseOr] makeUnpacked,
    same [keyValuePair]]
  | .keyValuePair => some <| plain [.mk [expression, ":", expression] makePair]
  | .comprehensionClauses => some <| plain [same [.atLeastOne comprehensionClause]]
  | .comprehensionClause => some <| plain [
    node .part (.mark "async" :: clauseItems),
    node .part clauseItems,
    same [forTargetFault]]
  | .listComprehension => some <| plain [
    node (.compound .listComprehension) ["[", namedExpression, comprehensionClauses, "]"],
    same [comprehensionFault]]
  | .setComprehension => some <| plain [
    node (.compound .setComprehension) ["\x7b", namedExpression, comprehensionClauses, "\x7d"],
    same [comprehensionFault]]
  | .generatorExpression => some <| plain [
    node (.compound .generator) ["(", unnamed, comprehensionClauses, ")"],
    same [comprehensionFault]]
  | .dictionaryComprehension => some <| plain [
    node (.compound .dictionaryComprehension)
      ["\x7b", keyValuePair, comprehensionClauses, "\x7d"],
    same [dictionaryComprehensionFault]]
  | _ => none

end MemoryShell.Source.Grammar
