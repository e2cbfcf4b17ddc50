import Std.Data.TreeMap
import MemoryShell.Source.Grammar.Call
import MemoryShell.Source.Grammar.Compound
import MemoryShell.Source.Grammar.Parameter
import MemoryShell.Source.Grammar.Pattern
import MemoryShell.Source.Grammar.Simple
import MemoryShell.Source.Grammar.Target
import MemoryShell.Source.Lexer

/-!
Reading tokens by a grammar. The branches of a rule are tried in order, and the first that fits
counts. What remembered rules stand for at a place is looked up when they are tried there again.
Rules that look for faults are tried only if faults are looked for.
-/

set_option autoImplicit false

namespace MemoryShell.Source

namespace Grammar

def families : List (Rule → Option Definition) :=
  [expressionRules, callRules, targetRules, simpleRules, compoundRules, parameterRules,
    patternRules]

def definition (r : Rule) : Definition :=
  (families.findSome? fun family => family r).getD (plain [])

end Grammar

/-- A malformation and its line. -/
structure Diagnosis where
  malformation : Malformation
  line : Nat
  deriving DecidableEq

def Diagnosis.message (d : Diagnosis) : String :=
  d.malformation.reason ++ " (<unknown>, line " ++ Malformation.shown d.line ++ ")"

namespace Recognizer

open Grammar

/-- What remembered rules stand for at the places that they are tried at, with the places that they end
at. -/
abbrev Memory := Std.TreeMap Nat (List (Rule × Option (Value × Nat)))

/-- Where reading is, how far has been looked, and what is remembered. -/
structure State where
  place : Nat
  furthest : Nat
  isSearching : Bool
  memory : Memory

/-- A fault that has been come upon: its line, whether the tokens end there, and how far has been
looked. -/
structure Fault where
  malformation : Malformation
  line : Nat
  endsTokens : Bool
  furthest : Nat

/-- The outcome of reading an item. -/
inductive Outcome
  | found (v : Value) (s : State)
  | missed (s : State)
  | failed (f : Fault)

/-- The outcome of reading items in sequence. A sequence that has been cut off excludes others. -/
inductive Sequenced
  | found (vs : List Value) (s : State)
  | missed (isCut : Bool) (s : State)
  | failed (f : Fault)

namespace State

def moveTo (s : State) (place : Nat) : State :=
  { s with place }

def searching (s : State) (isSearching : Bool) : State :=
  { s with isSearching }

def remembered? (s : State) (r : Rule) (start : Nat) : Option (Option (Value × Nat)) :=
  (s.memory.getD start []).lookup r

def remember (s : State) (r : Rule) (start : Nat) (what : Option (Value × Nat)) : State :=
  { s with memory := s.memory.insert start ((r, what) :: s.memory.getD start []) }

end State

def lineAt (ts : Tokens) (place : Nat) : Nat :=
  match ts.tokens[place]? with
  | some t => t.line
  | none => (ts.tokens.back?.map Token.line).getD 1

def failAtEnd (ts : Tokens) (s : State) : Outcome :=
  match ts.stop? with
  | some stop => .failed ⟨stop.fault, lineAt ts s.place, true, s.place⟩
  | none => .missed s

/-- What counts where a fault has been found: it, or what is wrong further on. -/
def diagnose (ts : Tokens) (fault : Diagnosis) (furthest : Nat) : Diagnosis :=
  match ts.stop? with
  | none => fault
  | some stop =>
    if stop.isFinal then { fault with malformation := stop.fault }
    else
      match stop.opening? with
      | some (c, line) =>
        if line < lineAt ts furthest then ⟨.neverClosed c, line⟩ else fault
      | none => fault

def diagnoseFault (ts : Tokens) (f : Fault) : Diagnosis :=
  if f.endsTokens then ⟨f.malformation, f.line⟩
  else diagnose ts ⟨f.malformation, f.line⟩ f.furthest

/-- What counts where nothing is known but the token that could not be read. -/
def diagnoseToken (ts : Tokens) (last furthest : Nat) : Diagnosis :=
  let line := lineAt ts last
  match (ts.tokens[last]?).map Token.kind with
  | some .indent => ⟨.unexpectedIndent, line⟩
  | some .unindent => ⟨.unexpectedUnindent, line⟩
  | _ => diagnose ts ⟨.complaint .unexpected, line⟩ furthest

/-- What counts where tokens have been read in vain once and then with faults looked for. -/
def diagnoseAgain (ts : Tokens) (first : State) : Outcome → Diagnosis
  | .failed f => diagnoseFault ts f
  | .found _ second => diagnoseToken ts first.furthest second.furthest
  | .missed second => diagnoseToken ts first.furthest second.furthest

def look (ts : Tokens) (s : State) (decide : Token → State → Outcome) : Outcome :=
  match ts.tokens[s.place]? with
  | some t => decide t { s with furthest := max s.furthest s.place }
  | none => failAtEnd ts s

def advance (v : Value) (s : State) : Outcome :=
  .found v { s with place := s.place + 1 }

def accept (ts : Tokens) (s : State) (test : Token → Bool) (value : Token → Value) : Outcome :=
  look ts s fun t s => if test t then advance (value t) s else .missed s

def nameValue (t : Token) : Value :=
  .tree t.line (.make (.name t.settled.text) [])

def isMark (text : String) (t : Token) : Bool :=
  t.kind = .mark && t.text = text

def startsSoftWord (t : Token) : Bool :=
  t.kind = .name && softWords.any fun word => t.text.toList.isPrefixOf word.toList

def readNumber (t : Token) (s : State) : Outcome :=
  if t.kind = .number then
    match Number.constantOf t.text.toList with
    | .ok c => advance (.tree t.line (.make (.constant c) [])) s
    | .error m => .failed ⟨m, t.line, false, s.furthest⟩
  else .missed s

def readForced (text : String) (t : Token) (s : State) : Outcome :=
  if isMark text t then advance .nothing s
  else .failed ⟨.expected text, t.line, false, s.furthest⟩

mutual

/-- Reads an item, with room for so many steps into one another. -/
def item (ts : Tokens) : Nat → Item → State → Outcome
  | 0, _, s => .missed s
  | _ + 1, .mark text, s => accept ts s (isMark text) fun _ => .nothing
  | _ + 1, .seen text, s => accept ts s (isMark text) .token
  | _ + 1, .forced text, s => look ts s (readForced text)
  | _ + 1, .soft text, s => accept ts s (fun t => t.kind = .name && t.text = text) .token
  | _ + 1, .softStart, s => accept ts s startsSoftWord .token
  | _ + 1, .name, s => accept ts s (fun t => t.kind = .name) nameValue
  | _ + 1, .number, s => look ts s readNumber
  | _ + 1, .quoted, s => accept ts s (fun t => t.kind = .quoted) .token
  | _ + 1, .lineEnd, s => accept ts s (fun t => t.kind = .lineEnd) fun _ => .nothing
  | _ + 1, .indent, s => accept ts s (fun t => t.kind = .indent) fun _ => .nothing
  | _ + 1, .unindent, s => accept ts s (fun t => t.kind = .unindent) fun _ => .nothing
  | _ + 1, .ending, s => accept ts s (fun t => t.kind = .ending) fun _ => .nothing
  | _ + 1, .last, s => .found (((ts.tokens[s.place - 1]?).map Value.token).getD .nothing) s
  | _ + 1, .cut, s => .found .nothing s
  | n + 1, .rule r, s => rule ts n r s
  | n + 1, .optional i, s =>
    let start := s.place
    match item ts n i s with
    | .missed s => .found .nothing (s.moveTo start)
    | o => o
  | n + 1, .many i, s => repeated ts n none i [] s
  | n + 1, .atLeastOne i, s =>
    match item ts n i s with
    | .found v s => repeated ts n none i [v] s
    | o => o
  | n + 1, .separated i, s =>
    match item ts n i s with
    | .found v s => repeated ts n (some ",") i [v] s
    | o => o
  | n + 1, .oneOf bs, s => firstOf ts n bs s.place [] s
  | n + 1, .ahead i, s =>
    let start := s.place
    match item ts n i s with
    | .found _ s => .found .nothing (s.moveTo start)
    | o => o
  | n + 1, .notAhead i, s =>
    let start := s.place
    match item ts n i s with
    | .found _ s => .missed s
    | .missed s => .found .nothing (s.moveTo start)
    | o => o

/-- Reads an item as often as it can be read, with separators in between if there are any. What has
been read comes last first. -/
def repeated (ts : Tokens) : Nat → Option String → Item → List Value → State → Outcome
  | 0, _, _, vs, s => .found (.list vs.reverse) s
  | n + 1, separator?, i, vs, s =>
    let start := s.place
    let outcome : Outcome :=
      match separator? with
      | none => item ts n i s
      | some separator =>
        match accept ts s (isMark separator) fun _ => .nothing with
        | .found _ s => item ts n i s
        | o => o
    match outcome with
    | .found v s => repeated ts n separator? i (v :: vs) s
    | .missed s => .found (.list vs.reverse) (s.moveTo start)
    | .failed f => .failed f

/-- Reads items one after the other. What has been read comes last first. -/
def inSequence (ts : Tokens) : Nat → List Item → List Value → Bool → State → Sequenced
  | 0, _, _, isCut, s => .missed isCut s
  | _ + 1, [], vs, _, s => .found vs.reverse s
  | n + 1, i :: is, vs, isCut, s =>
    match item ts n i s with
    | .found v s =>
      inSequence ts n is (if i.isSilent then vs else v :: vs) (isCut || i matches .cut) s
    | .missed s => .missed isCut s
    | .failed f => .failed f

/-- Reads the first branch that fits at a place, behind what has been read already. -/
def firstOf (ts : Tokens) : Nat → List Branch → Nat → List Value → State → Outcome
  | 0, _, _, _, s => .missed s
  | _ + 1, [], _, _, s => .missed s
  | n + 1, .mk is make :: bs, start, left, s =>
    let place := s.place
    match inSequence ts n is left false s with
    | .found vs s =>
      match make vs with
      | .formatted isWritable ps =>
        match formatted n ps with
        | .ok parts => .found (.tree (lineAt ts start) (.make (.formatted isWritable) parts)) s
        | .error m => .failed ⟨m, lineAt ts s.furthest, false, s.furthest⟩
      | .value v => .found v s
      | .tree t => .found (.tree (lineAt ts start) t) s
      | .nothing => .missed s
      | .fault m line? => .failed ⟨m, line?.getD (lineAt ts s.furthest), false, s.furthest⟩
    | .missed true s => .missed s
    | .missed false s => firstOf ts n bs start left (s.moveTo place)
    | .failed f => .failed f

/-- Lets what has been read go on as long as it can. -/
def goOn (ts : Tokens) : Nat → List Branch → Nat → Value → State → Outcome
  | 0, _, _, v, s => .found v s
  | n + 1, bs, start, v, s =>
    let place := s.place
    match firstOf ts n bs start [v] s with
    | .found v s => goOn ts n bs start v s
    | .missed s => .found v (s.moveTo place)
    | .failed f => .failed f

/-- Reads what a rule stands for. -/
def rule (ts : Tokens) : Nat → Rule → State → Outcome
  | 0, _, s => .missed s
  | n + 1, r, s =>
    let d := definition r
    let start := s.place
    let isSearching := s.isSearching
    if d.isFault && !isSearching then .missed s
    else
      match if d.isRemembered then s.remembered? r start else none with
      | some (some (v, place)) => .found v (s.moveTo place)
      | some none => .missed s
      | none =>
        let first := firstOf ts n d.branches start [] (s.searching (isSearching && !d.isQuiet))
        let outcome : Outcome :=
          match first with
          | .found v s => if d.goingOn.isEmpty then .found v s else goOn ts n d.goingOn start v s
          | o => o
        match outcome with
        | .found v s =>
          .found v ((if d.isRemembered then s.remember r start (some (v, s.place)) else s).searching
            isSearching)
        | .missed s =>
          .missed ((if d.isRemembered then s.remember r start none else s).searching isSearching)
        | .failed f => .failed f

/-- Reads what a formatted text holds, up to the first fault. A field has its value and its format as
parts. -/
def formatted : Nat → List Field.Piece → Except Malformation (List Tree)
  | 0, _ => .ok []
  | n + 1, ps => ps.flatMapM fun
    | .text _ => .ok []
    | .fault m => .error m
    | .field expression _ hasFormat format => do
      let value ← fieldValue n expression
      let parts ← formatted n format
      let format := if hasFormat then [Tree.make (.formatted true) parts] else []
      return [.make .part (value ++ format)]

/-- Reads the expression of a field, which stands in parentheses by itself. -/
def fieldValue : Nat → List Char → Except Malformation (List Tree)
  | 0, _ => .ok []
  | n + 1, expression =>
    let ts := Lexer.tokens ('(' :: expression ++ [')'])
    match rule ts n .starExpressions ⟨0, 0, false, ∅⟩ with
    | .found v _ => .ok v.trees
    | .failed f => .error (diagnoseFault ts f).malformation.within
    | .missed first =>
      let second := rule ts n .starExpressions ⟨0, first.furthest, true, ∅⟩
      .error (diagnoseAgain ts first second).malformation.within

end

def room (tokens : Nat) : Nat :=
  4096 * (tokens + 1)

def read (ts : Tokens) (isSearching : Bool) (furthest : Nat) : Outcome :=
  rule ts (room ts.tokens.size) .file ⟨0, furthest, isSearching, ∅⟩

end Recognizer

end MemoryShell.Source
