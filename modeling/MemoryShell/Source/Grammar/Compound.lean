import MemoryShell.Source.Grammar.Expression

/-!
The rules of statements with blocks, and of the whole. A block stands in the line of what opens it,
or indented in lines of its own.
-/

set_option autoImplicit false

namespace MemoryShell.Source.Grammar

open Rule Branch

def makeBlock (vs : List Value) : Made :=
  .value (.list ((Value.treesAll vs).map fun t => .tree 0 (t.as .body)))

/-- A definition of a form, from its name, what stands behind the name, what it gives back, and its
block. What it gives back comes last. -/
def makeFunction (form : String → Form) : List Value → Made
  | [name, params, result, body] =>
    .tree (.make (form name.id) (params.trees ++ body.trees ++ result.trees))
  | _ => .nothing

def makeClass : List Value → Made
  | [name, args, body] => .tree (.make (.classDef name.id) (args.trees ++ body.trees))
  | _ => .nothing

/-- A definition with decorators right behind its block. -/
def decorate (front : List Tree) : Tree → Tree
  | .node role form parts =>
    let result := (parts.reverse.takeWhile fun t => t.role = .plain).reverse
    .node role form (parts.take (parts.length - result.length) ++ front.map (Tree.as .decorator)
      ++ result)

def makeDecorated : List Value → Made
  | [front, .tree _ t] => .tree (decorate front.trees t)
  | _ => .nothing

def signature (paren colon : String → Item) : List Item :=
  [paren "(", .optional parameters, ")", .optional (sequence ["->", expression]), colon ":"]

def bases : Item :=
  .optional (sequence ["(", .optional arguments, ")"])

def givenName : Item :=
  .optional (sequence ["as", .name])

def handler (items : List Item) : Branch :=
  .mk (items ++ [.mark ":", .rule block]) fun vs =>
    .tree (.make .part (Value.treesAll (vs.take 1 ++ vs.getLast?.toList)))

def bound : Item :=
  .optional (sequence ["as", starTarget])

def contexts : Item :=
  .separated (.oneOf [collect [expression, bound]])

def contextsInParentheses : List Item :=
  ["(", .separated (.oneOf [collect [expressions, bound]]), .optional ",", ")"]

def withBranches (front : List Item) : List Branch := [
  node .statement
    (front ++ (["(", .separated withItem, .optional ",", ")", ":", block] : List Item)),
  node .statement (front ++ ([.separated withItem, ":", block] : List Item))]

def loop (front : List Item) : Branch :=
  node .statement
    (front
      ++ ([starTargets, "in", .cut, starExpressions, ":", block, .optional elseBlock] : List Item))

def colonless (items : List Item) : Branch :=
  fault (.expected ":") (items ++ [.lineEnd])

def conditionFault (word : String) : Definition :=
  faulty [
    colonless [.mark word, namedExpression],
    blockless ("'" ++ word ++ "' statement") [.seen word, namedExpression, ":"]]

def wordFault (word : String) : Branch :=
  blockless ("'" ++ word ++ "' statement") [.seen word, ":"]

/-- The rules of statements with blocks, and of the whole. -/
def compoundRules : Rule → Option Definition
  | .file => some <| plain [collect [.optional statements, .ending]]
  | .statements => some <| plain [collect [.atLeastOne statement]]
  | .statement => some <| plain [same [compoundStatement], same [simpleStatements]]
  | .compoundStatement => some <| plain [
    same [functionDefinition], same [ifStatement], same [classDefinition], same [withStatement],
    same [forStatement], same [tryStatement], same [whileStatement], same [matchStatement]]
  | .block => some <| remembered [
    .mk [.lineEnd, .indent, statements, .unindent] makeBlock,
    .mk [simpleStatements] makeBlock,
    same [blockFault]]
  | .decorators => some <| plain [
    collect [.atLeastOne (sequence ["@", namedExpression, .lineEnd])]]
  | .classDefinition => some <| plain [
    .mk [decorators, plainClass] makeDecorated,
    same [plainClass]]
  | .plainClass => some <| plain [
    same [classFault],
    .mk ["class", .name, bases, ":", block] makeClass]
  | .functionDefinition => some <| plain [
    .mk [decorators, plainFunction] makeDecorated,
    same [plainFunction]]
  | .plainFunction => some <| plain [
    same [functionFault],
    .mk ([.mark "def", .name] ++ signature .forced .forced ++ [.rule block])
      (makeFunction .function),
    .mk ([.mark "async", .mark "def", .name] ++ signature .forced .forced ++ [.rule block])
      (makeFunction .asyncFunction)]
  | .ifStatement => some <| plain [
    same [ifFault],
    node .statement ["if", namedExpression, ":", block, elifStatement],
    node .statement ["if", namedExpression, ":", block, .optional elseBlock]]
  | .elifStatement => some <| plain [
    same [elifFault],
    node .statement ["elif", namedExpression, ":", block, elifStatement],
    node .statement ["elif", namedExpression, ":", block, .optional elseBlock]]
  | .elseBlock => some <| plain [same [elseFault], same ["else", .forced ":", block]]
  | .whileStatement => some <| plain [
    same [whileFault],
    node .statement ["while", namedExpression, ":", block, .optional elseBlock]]
  | .forStatement => some <| plain [
    same [forFault],
    loop ["for"],
    loop ["async", "for"],
    same [forTargetFault]]
  | .withStatement => some <| plain (
    same [withBlockFault] :: withBranches ["with"] ++ withBranches ["async", "with"]
      ++ [same [withFault]])
  | .withItem => some <| plain [
    node .part [expression, "as", starTarget, .ahead (anyOf [",", ")", ":"])],
    same [withItemFault],
    node .part [expression]]
  | .tryStatement => some <| plain [
    same [tryFault],
    node .statement ["try", .forced ":", block, finallyBlock],
    node .statement ["try", .forced ":", block, .atLeastOne exceptBlock, .optional elseBlock,
      .optional finallyBlock],
    node .statement ["try", .forced ":", block, .atLeastOne exceptStarBlock, .optional elseBlock,
      .optional finallyBlock]]
  | .exceptBlock => some <| plain [
    same [exceptBlockFault],
    handler ["except", expression, givenName],
    node .part ["except", ":", block],
    same [exceptFault]]
  | .exceptStarBlock => some <| plain [
    same [exceptStarBlockFault],
    handler ["except", "*", expression, givenName],
    same [exceptFault]]
  | .finallyBlock => some <| plain [
    same [finallyFault],
    same ["finally", .forced ":", block]]
  | .matchStatement => some <| plain [
    node .statement
      [.soft "match", subjectExpression, ":", .lineEnd, .indent, .atLeastOne caseBlock, .unindent],
    same [matchFault]]
  | .subjectExpression => some <| plain [
    node (.compound .tuple) [starNamedExpression, ",", .optional starNamedExpressions],
    same [namedExpression]]
  | .caseBlock => some <| plain [
    same [caseFault],
    node .part [.soft "case", patterns, .optional caseCondition, ":", block]]
  | .caseCondition => some <| plain [same ["if", namedExpression]]
  | .blockFault => some <| faulty [fault .missingBlock [.lineEnd, .notAhead .indent]]
  | .withFault => some <| faulty [
    colonless [.optional "async", "with", contexts],
    colonless ([.optional (.mark "async"), .mark "with"] ++ contextsInParentheses)]
  | .withBlockFault => some <| faulty [
    blockless "'with' statement" [.optional "async", .seen "with", contexts, ":"],
    blockless "'with' statement"
      ([.optional (.mark "async"), .seen "with"] ++ contextsInParentheses ++ [.mark ":"])]
  | .tryFault => some <| faulty [
    wordFault "try",
    fault (.complaint .missingHandler)
      ["try", ":", block, .notAhead (anyOf ["except", "finally"])],
    fault (.complaint .mixedHandlers)
      ["try", ":", .many block,
        .oneOf [collect [.atLeastOne exceptBlock, exceptStarBlock],
          collect [.atLeastOne exceptStarBlock, exceptBlock]],
        .many block]]
  | .exceptFault => some <| faulty [
    complain 0 .severalHandled
      ["except", .optional "*", expression, ",", expressions, givenName, ":"],
    colonless ["except", .optional "*", expression, givenName],
    colonless ["except"],
    fault (.complaint .nothingHandled) ["except", "*", anyOf [.lineEnd, ":"]]]
  | .finallyFault => some <| faulty [wordFault "finally"]
  | .exceptBlockFault => some <| faulty [
    blockless "'except' statement" [.seen "except", expression, givenName, ":"],
    wordFault "except"]
  | .exceptStarBlockFault => some <| faulty [
    blockless "'except*' statement" [.seen "except", "*", expression, givenName, ":"]]
  | .matchFault => some <| faulty [
    colonless [.soft "match", subjectExpression],
    blockless "'match' statement" [.soft "match", subjectExpression, ":"]]
  | .caseFault => some <| faulty [
    colonless [.soft "case", patterns, .optional caseCondition],
    blockless "'case' statement" [.soft "case", patterns, .optional caseCondition, ":"]]
  | .ifFault => some (conditionFault "if")
  | .elifFault => some (conditionFault "elif")
  | .elseFault => some <| faulty [wordFault "else"]
  | .whileFault => some (conditionFault "while")
  | .forFault => some <| faulty [
    colonless [.optional "async", "for", starTargets, "in", starExpressions],
    blockless "'for' statement"
      [.optional "async", .seen "for", starTargets, "in", starExpressions, ":"]]
  | .functionFault => some <| faulty [
    blockless "function definition"
      ([.optional (.mark "async"), .seen "def", .name] ++ signature .mark .mark)]
  | .classFault => some <| faulty [
    colonless ["class", .name, bases],
    blockless "class definition" [.seen "class", .name, bases, ":"]]
  | _ => none

end MemoryShell.Source.Grammar
