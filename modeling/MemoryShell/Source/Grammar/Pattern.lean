import MemoryShell.Source.Grammar.Expression

/-!
The rules of patterns. A name that stands alone is bound to what it is matched with; one with a dot
is a value to compare with.
-/

set_option autoImplicit false

namespace MemoryShell.Source.Grammar

open Rule Branch

/-- A number that has to be imaginary, or has to be none. -/
def numberPart (isImaginary : Bool) (vs : List Value) : Made :=
  match vs.getLast? with
  | some (.tree line t) =>
    if (t.form matches .constant (.imaginary _)) = isImaginary then .value (.tree line t)
    else
      .fault (.complaint (if isImaginary then .imaginaryPart else .realPart)) (some line)
  | _ => .nothing

def imaginaryNumber : Item :=
  .oneOf [.mk [.number] (numberPart true)]

def realNumber : Item :=
  .oneOf [.mk [.number] (numberPart false)]

def valuePatternOf (items : List Item) : Branch :=
  node .part items

def literalBranches (wrap : List Item → Branch) : List Branch := [
  wrap [signedNumber, .notAhead (anyOf ["+", "-"])],
  wrap [complexNumber],
  wrap [literals]]

def leafPattern (items : List Item) : Branch :=
  .mk items fun _ => .tree (.make .part [])

def makeChoices (vs : List Value) : Made :=
  match vs.flatMap Value.items with
  | [v] => .value v
  | items => .tree (.make .part (Value.treesAll items))

/-- A mapping of patterns, whose keys come before its values. -/
def makeMapping (vs : List Value) : Made :=
  let pairs := (vs.take 1).flatMap Value.items
  .tree (.make .part
    ((pairs.flatMap fun
      | .pair k _ => k.trees
      | _ => []) ++
      pairs.flatMap fun
        | .pair _ v => v.trees
        | _ => []))

def patternRules : Rule → Option Definition
  | .patterns => some <| plain [node .part [openSequence], same [pattern]]
  | .pattern => some <| plain [same [asPattern], same [orPattern]]
  | .asPattern => some <| plain [
    .mk [orPattern, "as", captureTarget] fun vs => .tree (.make .part (Value.treesAll (vs.take 1))),
    same [asPatternFault]]
  | .orPattern => some <| plain [
    .mk [closedPattern, .many (sequence ["|", closedPattern])] fun vs =>
      makeChoices [.list (vs.take 1 ++ (vs.drop 1).flatMap Value.items)]]
  | .closedPattern => some <| remembered [
    same [literalPattern], same [capturePattern], same [wildcardPattern], same [valuePattern],
    same [groupPattern], same [sequencePattern], same [mappingPattern], same [classPattern]]
  | .literalPattern => some <| plain (literalBranches valuePatternOf ++ [
    leafPattern ["None"], leafPattern ["True"], leafPattern ["False"]])
  | .literalExpression => some <| plain (literalBranches same ++ [
    constantWord "None" .null, constantWord "True" (.bool true),
    constantWord "False" (.bool false)])
  | .complexNumber => some <| plain [
    node (.compound .operation) [signedReal, "+", imaginaryNumber],
    node (.compound .operation) [signedReal, "-", imaginaryNumber]]
  | .signedNumber => some <| plain [
    same [.number],
    node (.compound .operation) ["-", .number]]
  | .signedReal => some <| plain [
    same [realNumber],
    node (.compound .operation) ["-", realNumber]]
  | .capturePattern => some <| plain [leafPattern [captureTarget]]
  | .captureTarget => some <| plain [
    same [.notAhead (.soft "_"), .name, .notAhead (anyOf [".", "(", "="])]]
  | .wildcardPattern => some <| plain [leafPattern [.soft "_"]]
  | .valuePattern => some <| plain [
    node .part [dottedValue, .notAhead (anyOf [".", "(", "="])]]
  | .dottedValue => some <| goesOn [.mk [.name, ".", .name] makeAttribute]
    [.mk [".", .name] makeAttribute]
  | .nameOrDotted => some <| plain [same [dottedValue], same [.name]]
  | .groupPattern => some <| plain [same ["(", pattern, ")"]]
  | .sequencePattern => some <| plain [
    node .part ["[", .optional maybeSequence, "]"],
    node .part ["(", .optional openSequence, ")"]]
  | .openSequence => some <| plain [
    collect [maybeStarPattern, ",", .optional maybeSequence]]
  | .maybeSequence => some <| plain [same [.separated maybeStarPattern, .optional ","]]
  | .maybeStarPattern => some <| plain [same [starPattern], same [pattern]]
  | .starPattern => some <| remembered [
    leafPattern ["*", captureTarget],
    leafPattern ["*", wildcardPattern]]
  | .mappingPattern => some <| plain [
    leafPattern ["\x7b", "\x7d"],
    leafPattern ["\x7b", doubleStarPattern, .optional ",", "\x7d"],
    .mk ["\x7b", itemPatterns, ",", doubleStarPattern, .optional ",", "\x7d"] makeMapping,
    .mk ["\x7b", itemPatterns, .optional ",", "\x7d"] makeMapping]
  | .itemPatterns => some <| plain [same [.separated itemPattern]]
  | .itemPattern => some <| plain [
    .mk [anyOf [literalExpression, dottedValue], ":", pattern] makePair]
  | .doubleStarPattern => some <| plain [same ["**", captureTarget]]
  | .classPattern => some <| plain [
    node .part [nameOrDotted, "(", ")"],
    node .part [nameOrDotted, "(", positionalPatterns, .optional ",", ")"],
    node .part [nameOrDotted, "(", keywordPatterns, .optional ",", ")"],
    node .part
      [nameOrDotted, "(", positionalPatterns, ",", keywordPatterns, .optional ",", ")"],
    same [classPatternFault]]
  | .positionalPatterns => some <| plain [same [.separated pattern]]
  | .keywordPatterns => some <| plain [same [.separated keywordPattern]]
  | .keywordPattern => some <| plain [
    .mk [.name, "=", pattern] fun vs => .value (vs.getLast?.getD .nothing)]
  | .asPatternFault => some <| faulty [
    complain 1 .wildcardTarget [orPattern, "as", .soft "_"],
    complain 1 .patternTarget [orPattern, "as", .notAhead .name, expression]]
  | .classPatternFault => some <| faulty [
    complain 1 .patternOrder [nameOrDotted, "(", misplacedPatterns]]
  | .misplacedPatterns => some <| faulty [
    .mk [.optional (sequence [positionalPatterns, ","]), keywordPatterns, ",", positionalPatterns]
      fun vs => .value (vs.getLast?.getD .nothing)]
  | _ => none

end MemoryShell.Source.Grammar
