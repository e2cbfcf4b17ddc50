import MemoryShell.Source.Grammar.Expression

set_option autoImplicit false

namespace MemoryShell.Source.Grammar

open Rule Branch

def anyValue : Item :=
  anyOf [yieldExpression, starExpressions]

def augmentations : List String :=
  ["+=", "-=", "*=", "@=", "/=", "%=", "&=", "|=", "^=", "<<=", ">>=", "**=", "//="]

def annotatedRest : List Item :=
  [":", expression, .optional (sequence ["=", annotatedValue])]

def naming (items : List Item) : Branch :=
  .mk items fun _ => .tree (.make .statement [])

def dots : Item :=
  anyOf [".", "..."]

def earlierTargets : Item :=
  sequence [starTargets, "="]

/-- The rules of statements within a line. -/
def simpleRules : Rule → Option Definition
  | .simpleStatements => some <| plain [
    collect [simpleStatement, .notAhead ";", .lineEnd],
    collect [simpleStatement, .many (sequence [";", simpleStatement]), .optional ";", .lineEnd]]
  | .simpleStatement => some <| remembered [
    same [assignment],
    node .expression [starExpressions],
    same [returnStatement],
    same [importStatement],
    same [raiseStatement],
    node .pass ["pass"],
    same [delStatement],
    same [yieldStatement],
    same [assertStatement],
    node .statement ["break"],
    node .statement ["continue"],
    same [globalStatement],
    same [nonlocalStatement]]
  | .assignment => some <| plain [
    node .statement (.name :: annotatedRest),
    node .statement
      (.oneOf [same ["(", singleTarget, ")"], same [memberTarget]] :: annotatedRest),
    node .assign [.atLeastOne earlierTargets, anyValue, .notAhead "="],
    node .statement [singleTarget, augmentation, .cut, anyValue],
    same [assignmentFault]]
  | .annotatedValue => some <| plain [same [yieldExpression], same [starExpressions]]
  | .augmentation => some <| plain (augmentations.map fun operator => same [.mark operator])
  | .returnStatement => some <| plain [node .ret ["return", .optional starExpressions]]
  | .raiseStatement => some <| plain [
    node .statement ["raise", expression, .optional (sequence ["from", expression])],
    node .statement ["raise"]]
  | .globalStatement => some <| plain [naming ["global", .separated .name]]
  | .nonlocalStatement => some <| plain [naming ["nonlocal", .separated .name]]
  | .delStatement => some <| plain [
    node .statement ["del", delTargets, .ahead (anyOf [";", .lineEnd])],
    same [delFault]]
  | .yieldStatement => some <| plain [node .expression [yieldExpression]]
  | .assertStatement => some <| plain [
    node .statement ["assert", expression, .optional (sequence [",", expression])]]
  | .importStatement => some <| plain [
    naming ["import", .separated dottedAlias],
    naming ["from", .many dots, dottedName, "import", importedNames],
    naming ["from", .atLeastOne dots, "import", importedNames]]
  | .importedNames => some <| plain [
    same ["(", .separated importedName, .optional ",", ")"],
    same [.separated importedName, .notAhead ","],
    same ["*"],
    same [importFault]]
  | .importedName => some <| plain [collect [.name, .optional (sequence ["as", .name])]]
  | .dottedAlias => some <| plain [collect [dottedName, .optional (sequence ["as", .name])]]
  | .dottedName => some <| goesOn [same [.name]] [same [".", .name]]
  | .assignmentFault => some <| faulty [
    faultOfKind .annotated [annotatedDisplay, ":", expression],
    complain 0 .annotatedTuple
      [starNamedExpression, ",", .many starNamedExpressions, ":", expression],
    complain 0 .annotatedTarget [expression, ":", expression],
    faultOfTarget .assignment .assignment [.many earlierTargets, starExpressions, "="],
    complain 1 .yieldTarget [.many earlierTargets, yieldExpression, "="],
    faultOfKind .augmented [starExpressions, augmentation, anyValue]]
  | .annotatedDisplay => some <| faulty [
    same [listDisplay],
    same [tupleDisplay],
    same ["(", annotatedDisplay, ")"]]
  | .importFault => some <| faulty [
    fault (.complaint .trailingComma) [.separated importedName, ",", .lineEnd]]
  | _ => none

end MemoryShell.Source.Grammar
