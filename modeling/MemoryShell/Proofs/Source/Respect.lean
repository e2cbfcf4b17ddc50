import MemoryShell.Proofs.Source.Renewal

set_option autoImplicit false

namespace MemoryShell.Source.Grammar

open Rule Branch

/-! ## What is made of a branch -/

theorem head?_getD_renew {k : Nat} (vs : List Value) :
    ((vs.map (Value.renew k)).head?.getD .nothing) = (vs.head?.getD .nothing).renew k := by
  cases vs <;> rfl

theorem getLast?_getD_renew {k : Nat} (vs : List Value) :
    ((vs.map (Value.renew k)).getLast?.getD .nothing) = (vs.getLast?.getD .nothing).renew k := by
  rw [List.getLast?_map]
  cases vs.getLast? <;> rfl

@[simp] theorem respects_head : Respects fun vs => .value (vs.head?.getD .nothing) :=
  respects_value fun _ => head?_getD_renew

@[simp] theorem respects_getLast : Respects fun vs => .value (vs.getLast?.getD .nothing) :=
  respects_value fun _ => getLast?_getD_renew

@[simp] theorem respects_list : Respects fun vs => .value (.list vs) :=
  respects_value fun k vs => by rw [Value.renew, Value.renewAll_eq_map]

@[simp] theorem respects_makeSame : Respects makeSame :=
  respects_head

@[simp] theorem respects_makeList : Respects makeList :=
  respects_list

@[simp] theorem respects_node (form : Form) :
    Respects fun vs => .tree (.make form (Value.treesAll vs)) :=
  respects_tree fun _ _ => by rw [Value.treesAll_map_renew]

@[simp] theorem respects_leaf (t : Tree) : Respects fun _ => .tree t :=
  respects_tree fun _ _ => rfl

theorem comparisonForm_renew {k : Nat} :
    (vs : List Value) → comparisonForm (vs.map (Value.renew k)) = comparisonForm vs
  | _ :: .list (.pair (.list _) _ :: _) :: _ => rfl
  | [] => rfl
  | [_] => rfl
  | _ :: .nothing :: _ => rfl
  | _ :: .token _ :: _ => rfl
  | _ :: .tree _ _ :: _ => rfl
  | _ :: .pair _ _ :: _ => rfl
  | _ :: .list [] :: _ => rfl
  | _ :: .list (.nothing :: _) :: _ => rfl
  | _ :: .list (.token _ :: _) :: _ => rfl
  | _ :: .list (.tree _ _ :: _) :: _ => rfl
  | _ :: .list (.list _ :: _) :: _ => rfl
  | _ :: .list (.pair .nothing _ :: _) :: _ => rfl
  | _ :: .list (.pair (.token _) _ :: _) :: _ => rfl
  | _ :: .list (.pair (.tree _ _) _ :: _) :: _ => rfl
  | _ :: .list (.pair (.pair _ _) _ :: _) :: _ => rfl

@[simp] theorem respects_makeComparison : Respects makeComparison :=
  respects_tree fun _ vs => by rw [comparisonForm_renew, Value.treesAll_map_renew]

@[simp] theorem respects_makeConditional : Respects makeConditional := by
  intro k vs
  match vs with
  | [a, condition, b] => simp [makeConditional, Made.Follows]
  | [] => rfl
  | [_] => rfl
  | [_, _] => rfl
  | _ :: _ :: _ :: _ :: _ => rfl

@[simp] theorem respects_makeAttribute : Respects makeAttribute := by
  intro k vs
  match vs with
  | [owner, id] => simp [makeAttribute, Made.Follows]
  | [] => rfl
  | [_] => rfl
  | _ :: _ :: _ :: _ => rfl

@[simp] theorem respects_makeCallWithOne : Respects makeCallWithOne := by
  intro k vs
  match vs with
  | [callee, arg] => simp [makeCallWithOne, Made.Follows]
  | [] => rfl
  | [_] => rfl
  | _ :: _ :: _ :: _ => rfl

@[simp] theorem respects_makePair : Respects makePair := by
  intro k vs
  match vs with
  | [_, _] => rfl
  | [] => rfl
  | [_] => rfl
  | _ :: _ :: _ :: _ => rfl

@[simp] theorem respects_makeDefaulted : Respects makeDefaulted :=
  respects_makePair

@[simp] theorem respects_makeUnpacked : Respects makeUnpacked := by
  intro k vs
  match vs with
  | [_] => rfl
  | [] => rfl
  | _ :: _ :: _ => rfl

def literalOf : Value → Quoted.Parts
  | .token t => Quoted.Parts.ofChars t.text.toList
  | _ => ⟨[], []⟩

theorem literalOf_renew {k : Nat} (v : Value) : literalOf (v.renew k) = literalOf v := by
  cases v <;> rfl

/-- What is made of literals next to one another. -/
def ofLiterals (literals : List Quoted.Parts) : Made :=
  if literals.any Quoted.Parts.isFormatted then
    .formatted (Field.isWritable literals) (Field.piecesOfAll none literals)
  else
    match Quoted.formOf literals with
    | .ok form => .tree (.make form [])
    | .error m => .fault m none

theorem makeLiterals_eq (vs : List Value) :
    makeLiterals vs = ofLiterals ((vs.flatMap Value.items).map literalOf) := rfl

theorem makeLiterals_renew {k : Nat} (vs : List Value) :
    makeLiterals (vs.map (Value.renew k)) = makeLiterals vs := by
  have hliterals : ((vs.map (Value.renew k)).flatMap Value.items).map literalOf =
      (vs.flatMap Value.items).map literalOf := by
    rw [Value.flatMap_items_renew, List.map_map]
    exact List.map_congr_left fun v _ => literalOf_renew v
  rw [makeLiterals_eq, makeLiterals_eq, hliterals]

theorem Made.follows_of_eq {m : Made} {k : Nat} (h : ∀ v, m ≠ .value v) : m.Follows k m := by
  cases m with
  | value v => exact absurd rfl (h v)
  | _ => trivial

@[simp] theorem respects_makeLiterals : Respects makeLiterals := by
  intro k vs
  rw [makeLiterals_renew]
  refine Made.follows_of_eq fun v => ?_
  simp only [makeLiterals]
  split
  · simp
  · split <;> simp

def keysOf : Value → List Tree
  | .pair k _ => k.trees
  | _ => []

def valuesOf : Value → List Tree
  | .pair _ v => v.trees
  | _ => []

theorem flatMap_keysOf_renew {k : Nat} (vs : List Value) :
    (vs.map (Value.renew k)).flatMap keysOf = vs.flatMap keysOf := by
  rw [List.flatMap_map]
  exact congrArg vs.flatMap (funext fun v => by cases v <;> simp [Value.renew, keysOf])

theorem flatMap_valuesOf_renew {k : Nat} (vs : List Value) :
    (vs.map (Value.renew k)).flatMap valuesOf = vs.flatMap valuesOf := by
  rw [List.flatMap_map]
  exact congrArg vs.flatMap (funext fun v => by cases v <;> simp [Value.renew, valuesOf])

@[simp] theorem respects_makeDictionary : Respects makeDictionary :=
  respects_tree fun k vs => by
    rw [Value.flatMap_items_renew]
    exact congrArg (Tree.make (.compound .dictionary))
      (congr (congrArg (· ++ ·) (flatMap_keysOf_renew _)) (flatMap_valuesOf_renew _))

@[simp] theorem respects_makeMapping : Respects makeMapping :=
  respects_tree fun k vs => by
    rw [← List.map_take, Value.flatMap_items_renew]
    exact congrArg (Tree.make .part)
      (congr (congrArg (· ++ ·) (flatMap_keysOf_renew _)) (flatMap_valuesOf_renew _))

@[simp] theorem respects_makeKeyword : Respects makeKeyword :=
  respects_tree fun k vs => by rw [← List.map_drop, Value.treesAll_map_renew]

@[simp] theorem respects_makeUnpackedMapping : Respects makeUnpackedMapping :=
  respects_tree fun k vs => by rw [Value.treesAll_map_renew]

@[simp] theorem respects_parameterTree : Respects parameterTree :=
  respects_tree fun k vs => by rw [← List.map_drop, Value.treesAll_map_renew]

/-- Trees that start in no line of their own, or all in one. -/
theorem renew_listOfTrees {k line : Nat} (trees : List Tree) :
    (Value.list (trees.map (.tree line))).renew k = .list (trees.map (.tree (line - k))) := by
  rw [Value.renew, Value.renewAll_eq_map, List.map_map]
  rfl

@[simp] theorem respects_makeArguments : Respects makeArguments :=
  respects_value fun k vs => by
    have hline : (((vs.map (Value.renew k)).head?).bind Value.line?).getD 0 =
        ((vs.head?).bind Value.line?).getD 0 - k := by
      cases vs with
      | nil => simp
      | cons v vs => cases hv : v.line? <;> simp [hv]
    rw [Value.treesAll_map_renew, hline, renew_listOfTrees]

@[simp] theorem respects_makeBlock : Respects makeBlock :=
  respects_value fun k vs => by
    rw [Value.treesAll_map_renew]
    simp [Value.renew, Function.comp_def]

@[simp] theorem respects_makeFunction (form : String → Form) : Respects (makeFunction form) := by
  intro k vs
  match vs with
  | [name, params, result, body] => simp [makeFunction, Made.Follows]
  | [] => rfl
  | [_] => rfl
  | [_, _] => rfl
  | [_, _, _] => rfl
  | _ :: _ :: _ :: _ :: _ :: _ => rfl

@[simp] theorem respects_makeClass : Respects makeClass := by
  intro k vs
  match vs with
  | [name, args, body] => simp [makeClass, Made.Follows]
  | [] => rfl
  | [_] => rfl
  | [_, _] => rfl
  | _ :: _ :: _ :: _ :: _ => rfl

@[simp] theorem respects_makeDecorated : Respects makeDecorated := by
  intro k vs
  match vs with
  | [front, .tree _ t] => simp [makeDecorated, Value.renew, Made.Follows]
  | [_, .nothing] => rfl
  | [_, .token _] => rfl
  | [_, .pair _ _] => rfl
  | [_, .list _] => rfl
  | [] => rfl
  | [_] => rfl
  | a :: b :: _ :: _ => cases b <;> rfl

@[simp] theorem respects_handler :
    Respects fun vs => .tree (.make .part (Value.treesAll (vs.take 1 ++ vs.getLast?.toList))) :=
  respects_tree fun k vs => by
    have hlast : (vs.map (Value.renew k)).getLast?.toList = vs.getLast?.toList.map (Value.renew k) := by
      rw [List.getLast?_map]
      cases vs.getLast? <;> rfl
    rw [← List.map_take, hlast, ← List.map_append, Value.treesAll_map_renew]

@[simp] theorem respects_takeOne :
    Respects fun vs => .tree (.make .part (Value.treesAll (vs.take 1))) :=
  respects_tree fun k vs => by rw [← List.map_take, Value.treesAll_map_renew]

@[simp] theorem respects_makeStarred : Respects makeStarred := by
  intro k vs
  match vs with
  | [_, _, _] => rfl
  | [_, _] => rfl
  | [_] => rfl
  | [] => rfl
  | _ :: _ :: _ :: _ :: _ => rfl

theorem entries_renew {k : Nat} (vs : List Value) :
    entries (vs.map (Value.renew k)) = (entries vs).map (Value.renew k) := by
  simp only [entries, List.flatMap_map, List.map_flatMap]
  refine congrArg vs.flatMap (funext fun v => ?_)
  cases v with
  | list items =>
    simp only [Value.renew, Value.renewAll_eq_map, List.flatMap_map, List.map_flatMap]
    exact congrArg items.flatMap (funext fun v => by cases v <;> simp [Value.renew])
  | _ => simp [Value.renew]

theorem flatMap_parameters_renew {k : Nat} (vs : List Value) :
    (vs.map (Value.renew k)).flatMap Value.parameters = vs.flatMap Value.parameters := by
  rw [List.flatMap_map]
  refine congrArg vs.flatMap (funext fun v => ?_)
  cases v with
  | pair a _ => cases a <;> rfl
  | _ => rfl

theorem flatMap_defaults_renew {k : Nat} (vs : List Value) :
    (vs.map (Value.renew k)).flatMap Value.defaults = vs.flatMap Value.defaults := by
  rw [List.flatMap_map]
  exact congrArg vs.flatMap (funext fun v => by cases v <;> simp [Value.renew, Value.defaults])

/-- What stands after a star, taken apart. -/
def starredOf? : Option Value → List Tree × List Value × List Tree
  | some (.pair star (.pair others mapping)) => (star.trees, others.items, mapping.trees)
  | _ => ([], [], [])

theorem starredOf?_renew {k : Nat} : (v? : Option Value) →
    starredOf? (v?.map (Value.renew k)) =
      ((starredOf? v?).1, (starredOf? v?).2.1.map (Value.renew k), (starredOf? v?).2.2)
  | none => rfl
  | some .nothing => rfl
  | some (.token _) => rfl
  | some (.tree _ _) => rfl
  | some (.list _) => rfl
  | some (.pair _ .nothing) => rfl
  | some (.pair _ (.token _)) => rfl
  | some (.pair _ (.tree _ _)) => rfl
  | some (.pair _ (.list _)) => rfl
  | some (.pair _ (.pair _ _)) => by simp [starredOf?, Value.renew]

theorem makeParameters_eq (vs : List Value) : makeParameters vs =
    .tree (.make .part ((entries vs.dropLast).flatMap Value.parameters ++ (starredOf? vs.getLast?).1
      ++ (starredOf? vs.getLast?).2.1.flatMap Value.parameters
      ++ (starredOf? vs.getLast?).2.1.flatMap Value.defaults ++ (starredOf? vs.getLast?).2.2
      ++ (entries vs.dropLast).flatMap Value.defaults)) := by
  rfl

@[simp] theorem respects_makeParameters : Respects makeParameters := by
  intro k vs
  rw [makeParameters_eq, makeParameters_eq, ← List.map_dropLast, entries_renew, List.getLast?_map,
    starredOf?_renew]
  simp only [flatMap_parameters_renew, flatMap_defaults_renew]
  rfl

theorem Made.follows_ite {k : Nat} {p : Prop} [Decidable p] {v : Value} {m m' : Malformation}
    {line? line?' : Option Nat} : Made.Follows k (if p then .value v else .fault m line?)
      (if p then .value (v.renew k) else .fault m' line?') := by
  split
  · rfl
  · trivial

@[simp] theorem respects_numberPart (isImaginary : Bool) : Respects (numberPart isImaginary) := by
  intro k vs
  have hlast : (vs.map (Value.renew k)).getLast? = vs.getLast?.map (Value.renew k) :=
    List.getLast?_map
  unfold numberPart
  rw [hlast]
  cases vs.getLast? with
  | none => rfl
  | some v =>
    cases v with
    | tree line t =>
      simp only [Option.map_some, Value.renew]
      exact Made.follows_ite
    | _ => rfl

theorem respects_makeChoices : Respects makeChoices := by
  intro k vs
  unfold makeChoices
  rw [Value.flatMap_items_renew]
  match vs.flatMap Value.items with
  | [] => rfl
  | [v] => rfl
  | v :: w :: items =>
    exact congrArg (fun trees => Made.tree (.make .part trees))
      (Value.treesAll_map_renew (v :: w :: items))

@[simp] theorem respects_orPattern :
    Respects fun vs => makeChoices [.list (vs.take 1 ++ vs.tail.flatMap Value.items)] := by
  intro k vs
  have hlist : [Value.list ((vs.map (Value.renew k)).take 1
      ++ (vs.map (Value.renew k)).tail.flatMap Value.items)] =
      [Value.list (vs.take 1 ++ vs.tail.flatMap Value.items)].map (Value.renew k) := by
    rw [← List.map_take, ← List.map_tail, Value.flatMap_items_renew, ← List.map_append,
      List.map_singleton, Value.renew, Value.renewAll_eq_map]
  simp only [hlist]
  exact respects_makeChoices k _

/-! ## What the rules are made of -/

mutual

/-- All that is made within an item is made anew of what is written anew. -/
@[simp] def Item.Respectful : Item → Prop
  | .soft text => text ∈ softWords
  | .softStart => False
  | .last => False
  | .optional i => i.Respectful
  | .many i => i.Respectful
  | .atLeastOne i => i.Respectful
  | .separated i => i.Respectful
  | .oneOf bs => Branch.AllRespectful bs
  | .ahead i => i.Respectful
  | .notAhead i => i.Respectful
  | _ => True

@[simp] def Item.AllRespectful : List Item → Prop
  | [] => True
  | i :: is => i.Respectful ∧ Item.AllRespectful is

@[simp] def Branch.Respectful : Branch → Prop
  | .mk items make => Item.AllRespectful items ∧ Respects make

@[simp] def Branch.AllRespectful : List Branch → Prop
  | [] => True
  | b :: bs => b.Respectful ∧ Branch.AllRespectful bs

end

/-- A rule that does not look for faults is made of what is respectful. -/
def Definition.Respectful (d : Definition) : Prop :=
  d.isFault = true ∨ Branch.AllRespectful d.branches ∧ Branch.AllRespectful d.goingOn

@[simp] theorem Item.allRespectful_append :
    (is js : List Item) → AllRespectful (is ++ js) ↔ AllRespectful is ∧ AllRespectful js
  | [], _ => by simp [AllRespectful]
  | i :: is, js => by
    rw [List.cons_append, AllRespectful, AllRespectful, allRespectful_append is js, and_assoc]

@[simp] theorem Branch.allRespectful_append :
    (bs cs : List Branch) → AllRespectful (bs ++ cs) ↔ AllRespectful bs ∧ AllRespectful cs
  | [], _ => by simp [AllRespectful]
  | b :: bs, cs => by
    rw [List.cons_append, AllRespectful, AllRespectful, allRespectful_append bs cs, and_assoc]

theorem Item.allRespectful_iff {is : List Item} : AllRespectful is ↔ ∀ i ∈ is, i.Respectful := by
  induction is with
  | nil => simp [AllRespectful]
  | cons i is ih => rw [AllRespectful, ih, List.forall_mem_cons]

theorem Branch.allRespectful_iff {bs : List Branch} : AllRespectful bs ↔ ∀ b ∈ bs, b.Respectful := by
  induction bs with
  | nil => simp [AllRespectful]
  | cons b bs ih => rw [AllRespectful, ih, List.forall_mem_cons]

section

variable {items : List Item}

@[simp] theorem Branch.respectful_same : (same items).Respectful ↔ Item.AllRespectful items :=
  and_iff_left respects_head

@[simp] theorem Branch.respectful_collect : (collect items).Respectful ↔ Item.AllRespectful items :=
  and_iff_left respects_list

@[simp] theorem Branch.respectful_node {form : Form} :
    (node form items).Respectful ↔ Item.AllRespectful items :=
  and_iff_left (respects_node form)

@[simp] theorem Branch.respectful_faultAt {place : Nat} {m : Malformation} :
    (faultAt place m items).Respectful ↔ Item.AllRespectful items :=
  and_iff_left respects_fault

@[simp] theorem Branch.respectful_complain {place : Nat} {c : Complaint} :
    (complain place c items).Respectful ↔ Item.AllRespectful items :=
  respectful_faultAt

@[simp] theorem Item.respectful_anyOf : (anyOf items).Respectful ↔ Item.AllRespectful items := by
  rw [anyOf, Item.Respectful, Branch.allRespectful_iff, Item.allRespectful_iff]
  simp [Item.AllRespectful]

@[simp] theorem Item.respectful_sequence : (sequence items).Respectful ↔ Item.AllRespectful items := by
  simp [sequence, Item.Respectful, Branch.AllRespectful]

end

section

variable {bs cs : List Branch}

@[simp] theorem Definition.respectful_mk {isRemembered isFault isQuiet : Bool} :
    (Definition.mk bs cs isRemembered isFault isQuiet).Respectful ↔
      isFault = true ∨ AllRespectful bs ∧ AllRespectful cs :=
  Iff.rfl

@[simp] theorem Definition.respectful_plain : (plain bs).Respectful ↔ AllRespectful bs := by
  simp [Definition.Respectful, plain]

@[simp] theorem Definition.respectful_remembered : (remembered bs).Respectful ↔ AllRespectful bs := by
  simp [Definition.Respectful, remembered]

@[simp] theorem Definition.respectful_goesOn :
    (goesOn bs cs).Respectful ↔ AllRespectful bs ∧ AllRespectful cs := by
  simp [Definition.Respectful, goesOn]

@[simp] theorem Definition.respectful_faulty : (faulty bs).Respectful ↔ True :=
  iff_true_intro (.inl rfl)

end

@[simp] theorem respectful_comparedWith (operators : List String) :
    (comparedWith operators).Respectful := by
  refine ⟨?_, respects_value fun k vs => ?_⟩
  · rw [Item.allRespectful_append, Item.allRespectful_iff]
    simp
  · rw [Value.renew, Value.renew, Value.renewAll_eq_map]
    split <;> rfl

/-! ## Family by family -/

theorem simpleRules_respectful {r : Rule} {d : Definition} (h : simpleRules r = some d) :
    d.Respectful := by
  cases r <;> simp only [simpleRules, Option.some.injEq, reduceCtorEq] at h <;> subst h <;>
    simp [anyValue, annotatedRest, naming, dots, earlierTargets, augmentations]

theorem expressionRules_respectful {r : Rule} {d : Definition} (h : expressionRules r = some d) :
    d.Respectful := by
  cases r <;> simp only [expressionRules, Option.some.injEq, reduceCtorEq] at h <;> subst h <;>
    simp [operation, memberSteps, constantWord, clauseItems, unnamed]

theorem callRules_respectful {r : Rule} {d : Definition} (h : callRules r = some d) :
    d.Respectful := by
  cases r <;> simp only [callRules, Option.some.injEq, reduceCtorEq] at h <;> subst h <;>
    simp [faulty, positional, unnamed]

theorem targetRules_respectful {r : Rule} {d : Definition} (h : targetRules r = some d) :
    d.Respectful := by
  cases r <;> simp only [targetRules, Option.some.injEq, reduceCtorEq] at h <;> subst h <;>
    simp [memberTargets, memberSteps]

theorem compoundRules_respectful {r : Rule} {d : Definition} (h : compoundRules r = some d) :
    d.Respectful := by
  cases r <;> simp only [compoundRules, Option.some.injEq, reduceCtorEq] at h <;> subst h <;>
    simp [signature, bases, givenName, handler, bound, contexts, contextsInParentheses, withBranches, loop,
      conditionFault, softWords]

theorem parameterRules_respectful {r : Rule} {d : Definition} (h : parameterRules r = some d) :
    d.Respectful := by
  cases r <;> simp only [parameterRules, Option.some.injEq, reduceCtorEq] at h <;> subst h <;>
    simp [closing, parametersOf, slashedOf, slashedDefaultsOf, starredOf, doubleStarredOf, parametersFaultOf,
      defaultedOf, starredFaultOf, doubleStarredFaultOf, starAnnotated]

theorem patternRules_respectful {r : Rule} {d : Definition} (h : patternRules r = some d) :
    d.Respectful := by
  cases r <;> simp only [patternRules, Option.some.injEq, reduceCtorEq] at h <;> subst h <;>
    simp [imaginaryNumber, realNumber, valuePatternOf, literalBranches, leafPattern, constantWord, softWords]

theorem definition_respectful (r : Rule) : (definition r).Respectful := by
  rw [definition]
  cases h : families.findSome? fun family => family r with
  | none => simp
  | some d =>
    obtain ⟨family, hfamily, hd⟩ := List.exists_of_findSome?_eq_some h
    simp only [families, List.mem_cons, List.not_mem_nil, or_false] at hfamily
    rcases hfamily with rfl | rfl | rfl | rfl | rfl | rfl | rfl
    · exact expressionRules_respectful hd
    · exact callRules_respectful hd
    · exact targetRules_respectful hd
    · exact simpleRules_respectful hd
    · exact compoundRules_respectful hd
    · exact parameterRules_respectful hd
    · exact patternRules_respectful hd

end MemoryShell.Source.Grammar
