import MemoryShell.Source.Grammar.Expression

set_option autoImplicit false

namespace MemoryShell.Source.Grammar

open Rule Branch

def memberTargets : List Branch := [
  .mk [targetPrimary, ".", .name, .notAhead targetGoesOn] makeAttribute,
  node (.compound .subscript) [targetPrimary, "[", slices, "]", .notAhead targetGoesOn]]

def targetRules : Rule → Option Definition
  | .starTargets => some <| plain [
    same [starTarget, .notAhead ","],
    node (.compound .tuple) [starTarget, .many (sequence [",", starTarget]), .optional ","]]
  | .starTargetList => some <| plain [same [.separated starTarget, .optional ","]]
  | .starTargetTuple => some <| plain [
    collect [starTarget, .atLeastOne (sequence [",", starTarget]), .optional ","],
    collect [starTarget, ","]]
  | .starTarget => some <| remembered [
    node (.compound .starred) ["*", .notAhead "*", starTarget],
    same [starAtomTarget]]
  | .starAtomTarget => some <| remembered (memberTargets ++ [same [starAtom]])
  | .starAtom => some <| plain [
    same [.name],
    same ["(", starAtomTarget, ")"],
    node (.compound .tuple) ["(", .optional starTargetTuple, ")"],
    node (.compound .list) ["[", .optional starTargetList, "]"]]
  | .singleTarget => some <| plain [
    same [memberTarget],
    same [.name],
    same ["(", singleTarget, ")"]]
  | .memberTarget => some <| plain memberTargets
  | .targetPrimary => some <| goesOn [same [atom, .ahead targetGoesOn]]
    (memberSteps [.ahead targetGoesOn])
  | .targetGoesOn => some <| plain [same ["("], same ["["], same ["."]]
  | .delTargets => some <| plain [same [.separated delTarget, .optional ","]]
  | .delTarget => some <| remembered (memberTargets ++ [same [delAtom]])
  | .delAtom => some <| plain [
    same [.name],
    same ["(", delTarget, ")"],
    node (.compound .tuple) ["(", .optional delTargets, ")"],
    node (.compound .list) ["[", .optional delTargets, "]"]]
  | .forTargetFault => some <| faulty [
    faultOfTarget .loop .assignment [.optional "async", "for", starExpressions]]
  | .delFault => some <| faulty [faultOfTarget .deletion .deletion ["del", starExpressions]]
  | .withItemFault => some <| faulty [
    faultOfTarget .assignment .assignment
      [expression, "as", expression, .ahead (anyOf [",", ")", ":"])]]
  | _ => none

end MemoryShell.Source.Grammar
