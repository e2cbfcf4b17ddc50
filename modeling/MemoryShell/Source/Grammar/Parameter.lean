import MemoryShell.Source.Grammar.Rule

/-!
The rules of parameters. Those of functions may be annotated and end before a parenthesis, those of
anonymous functions may not and end before a colon; in all else they are alike.
-/

set_option autoImplicit false

namespace MemoryShell.Source.Grammar

open Rule Branch

/-- The names of the rules of one kind of parameters, and what their list ends before. -/
structure ParameterRules where
  ending : String
  any : Rule
  slashed : Rule
  slashedDefaults : Rule
  starred : Rule
  doubleStarred : Rule
  withoutDefault : Rule
  withDefault : Rule
  maybeDefault : Rule
  one : Rule
  defaulted : Rule

/-- The rules of the parameters of functions. -/
def namedParameters : ParameterRules where
  ending := ")"
  any := plainParameters
  slashed := slashedParameters
  slashedDefaults := Rule.slashedDefaults
  starred := starredParameters
  doubleStarred := doubleStarredParameter
  withoutDefault := parameterWithoutDefault
  withDefault := parameterWithDefault
  maybeDefault := parameterMaybeDefault
  one := parameter
  defaulted := defaultedParameters

/-- The rules of the parameters of anonymous functions. -/
def anonymousParameters : ParameterRules where
  ending := ":"
  any := plainLambdaParameters
  slashed := slashedLambdaParameters
  slashedDefaults := slashedLambdaDefaults
  starred := starredLambdaParameters
  doubleStarred := doubleStarredLambdaParameter
  withoutDefault := lambdaParameterWithoutDefault
  withDefault := lambdaParameterWithDefault
  maybeDefault := lambdaParameterMaybeDefault
  one := lambdaParameter
  defaulted := defaultedLambdaParameters

def Value.parameters : Value → List Tree
  | .tree _ t => [t]
  | .pair (.tree _ t) _ => [t]
  | _ => []

def Value.defaults : Value → List Tree
  | .pair _ d => d.trees
  | _ => []

/-- The parameters and lists of them among values, one by one. -/
def entries (vs : List Value) : List Value :=
  vs.flatMap fun
    | .list items => items.flatMap fun
      | .list inner => inner
      | v => [v]
    | .nothing => []
    | v => [v]

/-- All parameters: those given by place, those after a star with their defaults, and the defaults
of the former. What stands after a star comes as the last value. -/
def makeParameters (vs : List Value) : Made :=
  let front := entries vs.dropLast
  let (star, others, mapping) :=
    match vs.getLast? with
    | some (.pair star (.pair others mapping)) => (star.trees, others.items, mapping.trees)
    | _ => ([], [], [])
  .tree (.make .part (front.flatMap Value.parameters ++ star ++ others.flatMap Value.parameters
    ++ others.flatMap Value.defaults ++ mapping ++ front.flatMap Value.defaults))

/-- What stands after a star: the parameter for the rest, those given by name, and the parameter for
the rest of these. -/
def makeStarred : List Value → Made
  | [star, others, mapping] => .value (.pair star (.pair others mapping))
  | [others, mapping] => .value (.pair .nothing (.pair others mapping))
  | [mapping] => .value (.pair .nothing (.pair (.list []) mapping))
  | _ => .nothing

def makeDefaulted : List Value → Made
  | [p, d] => .value (.pair p d)
  | _ => .nothing

def closing (p : ParameterRules) (items : List Item) (make : List Value → Made) : List Branch := [
  .mk (items ++ [.mark ","]) make,
  .mk (items ++ [.ahead (.mark p.ending)]) make]

def makeSame (vs : List Value) : Made :=
  .value (vs.head?.getD .nothing)

def makeList (vs : List Value) : Made :=
  .value (.list vs)

def parametersOf (p : ParameterRules) : Definition :=
  plain [
    .mk [p.slashed, .many p.withoutDefault, .many p.withDefault, .optional p.starred]
      makeParameters,
    .mk [p.slashedDefaults, .many p.withDefault, .optional p.starred] makeParameters,
    .mk [.atLeastOne p.withoutDefault, .many p.withDefault, .optional p.starred] makeParameters,
    .mk [.atLeastOne p.withDefault, .optional p.starred] makeParameters,
    .mk [p.starred] makeParameters]

def slashedOf (p : ParameterRules) : Definition :=
  plain (closing p [.atLeastOne p.withoutDefault, .mark "/"] makeSame)

def slashedDefaultsOf (p : ParameterRules) : Definition :=
  plain (closing p [.many p.withoutDefault, .atLeastOne p.withDefault, .mark "/"] makeList)

def starredOf (p : ParameterRules) (fault : Rule) (annotated : List Branch) : Definition :=
  plain ([
    same [fault],
    .mk ["*", p.withoutDefault, .many p.maybeDefault, .optional p.doubleStarred] makeStarred]
    ++ annotated ++ [
    .mk ["*", ",", .atLeastOne p.maybeDefault, .optional p.doubleStarred] makeStarred,
    .mk [p.doubleStarred] makeStarred])

def doubleStarredOf (p : ParameterRules) (fault : Rule) : Definition :=
  plain [same [fault], same ["**", p.withoutDefault]]

def parametersFaultOf (p : ParameterRules) (inParentheses : List Branch) : Definition :=
  let slashed := anyOf [p.slashed, p.slashedDefaults]
  faulty ([
    complain 2 .defaultOrder [.many p.withoutDefault, p.defaulted, p.withoutDefault]]
    ++ inParentheses ++ [
    complain 0 .leadingSlash [.seen "/", ","],
    complain 2 .repeatedSlash [slashed, .many p.maybeDefault, .seen "/"],
    complain 4 .lateSlash
      [.optional slashed, .many p.maybeDefault, "*", anyOf [",", p.withoutDefault],
        .many p.maybeDefault, .seen "/"],
    complain 1 .slashStar [.atLeastOne p.maybeDefault, "/", .seen "*"]])

def defaultedOf (p : ParameterRules) : Definition :=
  faulty [same [p.slashedDefaults], same [.atLeastOne p.withDefault]]

/-- What is wrong with parameters after a star. -/
def starredFaultOf (p : ParameterRules) : Definition :=
  faulty [
    fault (.complaint .bareStar)
      ["*", .oneOf [same [.mark p.ending],
        same [",", anyOf [.mark p.ending, "**"]]]],
    complain 1 .starDefault ["*", p.one, .seen "="],
    complain 2 .repeatedStar
      ["*", anyOf [p.withoutDefault, ","], .many p.maybeDefault, .seen "*",
        anyOf [p.withoutDefault, ","]]]

/-- What is wrong with the parameter for the rest of those given by name. -/
def doubleStarredFaultOf (p : ParameterRules) : Definition :=
  faulty [
    complain 1 .doubleStarDefault ["**", p.one, .seen "="],
    complain 1 .afterDoubleStar ["**", p.one, ",", p.one],
    complain 1 .afterDoubleStar ["**", p.one, ",", anyOf [.seen "*", .seen "**", .seen "/"]]]

def parenthesizedNamed : List Branch := [
  complain 1 .parenthesizedParameters
    [.many parameterWithoutDefault, .seen "(", .atLeastOne parameterWithoutDefault, .optional ",",
      ")"]]

def parenthesizedAnonymous : List Branch := [
  complain 1 .parenthesizedLambda
    [.many lambdaParameterWithoutDefault, .seen "(", .separated lambdaParameter, .optional ",",
      ")"]]

def starAnnotated : List Branch := [
  .mk ["*", starAnnotatedParameter, .many parameterMaybeDefault, .optional doubleStarredParameter]
    makeStarred]

def parameterTree (vs : List Value) : Made :=
  .tree (.make .part (Value.treesAll (vs.drop 1)))

def parameterRules : Rule → Option Definition
  | .parameters => some <| plain [same [parametersFault], same [plainParameters]]
  | .plainParameters => some (parametersOf namedParameters)
  | .slashedParameters => some (slashedOf namedParameters)
  | .slashedDefaults => some (slashedDefaultsOf namedParameters)
  | .starredParameters =>
    some (starredOf namedParameters starredParametersFault starAnnotated)
  | .doubleStarredParameter => some (doubleStarredOf namedParameters doubleStarredParameterFault)
  | .parameterWithoutDefault => some <| plain (closing namedParameters [parameter] makeSame)
  | .starAnnotatedParameter => some <| plain (closing namedParameters [starAnnotatedName] makeSame)
  | .parameterWithDefault =>
    some <| plain (closing namedParameters [parameter, defaultValue] makeDefaulted)
  | .parameterMaybeDefault =>
    some <| plain (closing namedParameters [parameter, .optional defaultValue] makeDefaulted)
  | .parameter => some <| plain [.mk [.name, .optional parameterType] parameterTree]
  | .starAnnotatedName => some <| plain [.mk [.name, ":", starExpression] parameterTree]
  | .parameterType => some <| plain [same [":", expression]]
  | .defaultValue => some <| plain [same ["=", expression], same [defaultFault]]
  | .lambdaParameters =>
    some <| plain [same [lambdaParametersFault], same [plainLambdaParameters]]
  | .plainLambdaParameters => some (parametersOf anonymousParameters)
  | .slashedLambdaParameters => some (slashedOf anonymousParameters)
  | .slashedLambdaDefaults => some (slashedDefaultsOf anonymousParameters)
  | .starredLambdaParameters =>
    some (starredOf anonymousParameters starredLambdaParametersFault [])
  | .doubleStarredLambdaParameter =>
    some (doubleStarredOf anonymousParameters doubleStarredLambdaParameterFault)
  | .lambdaParameterWithoutDefault =>
    some <| plain (closing anonymousParameters [lambdaParameter] makeSame)
  | .lambdaParameterWithDefault =>
    some <| plain (closing anonymousParameters [lambdaParameter, defaultValue] makeDefaulted)
  | .lambdaParameterMaybeDefault =>
    some <| plain
      (closing anonymousParameters [lambdaParameter, .optional defaultValue] makeDefaulted)
  | .lambdaParameter => some <| plain [.mk [.name] parameterTree]
  | .lambdaExpression => some <| plain [
    node (.compound .lambda) ["lambda", .optional lambdaParameters, ":", expression]]
  | .parametersFault => some (parametersFaultOf namedParameters parenthesizedNamed)
  | .defaultedParameters => some (defaultedOf namedParameters)
  | .defaultFault => some <| faulty [
    complain 0 .missingDefault [.seen "=", .ahead (anyOf [")", ","])]]
  | .starredParametersFault => some (starredFaultOf namedParameters)
  | .doubleStarredParameterFault => some (doubleStarredFaultOf namedParameters)
  | .lambdaParametersFault => some (parametersFaultOf anonymousParameters parenthesizedAnonymous)
  | .defaultedLambdaParameters => some (defaultedOf anonymousParameters)
  | .starredLambdaParametersFault => some (starredFaultOf anonymousParameters)
  | .doubleStarredLambdaParameterFault => some (doubleStarredFaultOf anonymousParameters)
  | _ => none

end MemoryShell.Source.Grammar
