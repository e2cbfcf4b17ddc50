import MemoryShell.Proofs.Source.Module
import MemoryShell.Proofs.Source.Walk
import MemoryShell.Proofs.Text.NormalForm

/-!
What a function may not touch. A module is taken just in case that it is one function, that nothing in it,
apart from what decorates that function, is an attribute or a name that leads out of an isolate, and that it
can be written. Otherwise the first such form that walking comes upon is what the function is refused for,
or, where there is none, what keeps it from being written. What has been taken is taken again as it is. Its
text is written anew before it is handed on, and a name whose normal form is a reserved word cannot be read
again.
-/

set_option autoImplicit false

namespace MemoryShell.Source

/-- A form that a function is refused for, and the error that tells of it. -/
inductive Form.Refused : Form → Error → Prop
  | attribute {id : String} (h : ['_'] <+: id.toList ∨ id ∈ blockedAttributes) :
      Refused (.attribute id) (.attribute id)
  | name {id : String} (h : ['_', '_'] <+: id.toList) : Refused (.name id) (.name id)

theorem isBlockedAttribute_iff {id : String} :
    isBlockedAttribute id = true ↔ ['_'] <+: id.toList ∨ id ∈ blockedAttributes := by
  have hhead : id.toList.head? = some '_' ↔ ['_'] <+: id.toList := by
    cases id.toList <;> simp [List.cons_prefix_cons, eq_comm]
  rw [isBlockedAttribute, Bool.or_eq_true, decide_eq_true_eq, hhead, List.contains_iff_mem]

theorem isBlockedName_iff {id : String} : isBlockedName id = true ↔ ['_', '_'] <+: id.toList :=
  List.isPrefixOf_iff_prefix

theorem Form.offence?_eq_some {form : Form} {e : Error} :
    form.offence? = some e ↔ form.Refused e := by
  constructor
  · intro h
    unfold offence? at h
    split at h
    · obtain ⟨hblocked, he⟩ := Option.ite_none_right_eq_some.mp h
      obtain rfl := Option.some.inj he
      exact .name (isBlockedName_iff.mp hblocked)
    · obtain ⟨hblocked, he⟩ := Option.ite_none_right_eq_some.mp h
      obtain rfl := Option.some.inj he
      exact .attribute (isBlockedAttribute_iff.mp hblocked)
    · cases h
  · rintro (⟨hblocked⟩ | ⟨hblocked⟩)
    · rw [offence?, if_pos (isBlockedAttribute_iff.mpr hblocked)]
    · rw [offence?, if_pos (isBlockedName_iff.mpr hblocked)]

theorem Form.offence?_eq_none {form : Form} : form.offence? = none ↔ ∀ e, ¬ form.Refused e := by
  simp only [Option.eq_none_iff_forall_ne_some, ne_eq, offence?_eq_some]

/-- A tree can be written where there is room for so many frames: it takes no more, none of its whole
numbers has too many digits, and none of its formatted texts needs a backslash in its braces. -/
structure Tree.Writable (room : Nat) (t : Tree) : Prop where
  shallow : t.frames ≤ room
  short : ∀ n : Int, t.Holds (.constant (.value (.integer n))) → n.natAbs < leastLong
  plain : ¬ t.Holds (.formatted false)

/-- What keeps a tree from being written, and the error that tells of it. -/
inductive Tree.Unwritable (room : Nat) (t : Tree) : Error → Prop
  | tooDeep (h : room < t.frames) : Unwritable room t .tooDeep
  | longNumber {n : Int} (hn : t.Holds (.constant (.value (.integer n)))) (h : leastLong ≤ n.natAbs) :
      Unwritable room t .longNumber
  | backslash (h : t.Holds (.formatted false)) : Unwritable room t .backslash

theorem Form.writingFault?_long {n : Int} (h : leastLong ≤ n.natAbs) :
    (Form.constant (.value (.integer n))).writingFault? = some .longNumber := by
  rw [writingFault?, if_pos h]

theorem Tree.unwritable_of_form {room : Nat} {t : Tree} {form : Form} {e : Error} (hheld : t.Holds form)
    (h : form.writingFault? = some e) : t.Unwritable room e := by
  unfold Form.writingFault? at h
  split at h
  · obtain ⟨hlong, he⟩ := Option.ite_none_right_eq_some.mp h
    obtain rfl := Option.some.inj he
    exact .longNumber hheld hlong
  · obtain rfl := Option.some.inj h
    exact .backslash hheld
  · cases h

theorem Tree.unwritable_of_writingFault? {room : Nat} {t : Tree} {e : Error}
    (h : t.writingFault? room = some e) : t.Unwritable room e := by
  unfold writingFault? at h
  split at h
  · next hframes =>
    obtain rfl := Option.some.inj h
    exact .tooDeep hframes
  · rw [breadthFirst_eq_walk] at h
    obtain ⟨form, hwalk, hform⟩ := List.exists_of_findSome?_eq_some h
    obtain ⟨_, hroot, hheld⟩ := (mem_walk _).mp hwalk
    obtain rfl := List.mem_singleton.mp hroot
    exact unwritable_of_form hheld hform

theorem Tree.Writable.not_unwritable {room : Nat} {t : Tree} {e : Error} (h : t.Writable room) :
    ¬ t.Unwritable room e := by
  rintro (hframes | ⟨hn, hlong⟩ | hheld)
  · exact absurd h.shallow (Nat.not_le.mpr hframes)
  · exact absurd (h.short _ hn) (Nat.not_lt.mpr hlong)
  · exact h.plain hheld

theorem Tree.writingFault?_eq_none {room : Nat} {t : Tree} :
    t.writingFault? room = none ↔ t.Writable room := by
  constructor
  · intro h
    unfold writingFault? at h
    split at h
    · cases h
    · next hframes =>
      have hnone {form : Form} (hheld : t.Holds form) : form.writingFault? = none := by
        rw [breadthFirst_eq_walk, List.findSome?_eq_none_iff] at h
        exact h form ((mem_walk _).mpr ⟨t, List.mem_singleton_self t, hheld⟩)
      refine ⟨Nat.le_of_not_lt hframes, fun n hheld => Nat.lt_of_not_le fun hlong => ?_, fun hheld => ?_⟩
      · cases (hnone hheld).symm.trans (Form.writingFault?_long hlong)
      · cases hnone hheld
  · intro h
    exact Option.eq_none_iff_forall_ne_some.mpr fun e he => h.not_unwritable (unwritable_of_writingFault? he)

def Recognizer.Outcome.isFound : Recognizer.Outcome → Bool
  | .found _ _ => true
  | _ => false

theorem moduleOf_ne_ok {ts : Tokens} (h : (Recognizer.read ts.undecorated false 0).isFound = false)
    (module : List Tree) : moduleOf ts ≠ .ok module := by
  intro hmodule
  obtain ⟨_, _, _, -, hread, -⟩ := exists_read_of_moduleOf hmodule
  rw [hread] at h
  cases h

namespace Function

/-- The first form that walking comes upon of those that a function is refused for. -/
def FirstRefused (definition : Tree) (e : Error) : Prop :=
  ∃ before form after, Tree.walk [definition] = before ++ form :: after ∧
    (∀ g ∈ before, ∀ e, ¬ g.Refused e) ∧ form.Refused e

theorem findSome?_offence?_eq_some {definition : Tree} {e : Error} :
    definition.breadthFirst.findSome? Form.offence? = some e ↔ FirstRefused definition e := by
  simp only [Tree.breadthFirst_eq_walk, List.findSome?_eq_some_iff, Form.offence?_eq_some,
    Form.offence?_eq_none]
  constructor
  · rintro ⟨before, form, after, hwalk, hform, hbefore⟩
    exact ⟨before, form, after, hwalk, hbefore, hform⟩
  · rintro ⟨before, form, after, hwalk, hbefore, hform⟩
    exact ⟨before, form, after, hwalk, hform, hbefore⟩

theorem findSome?_offence?_eq_none {definition : Tree} :
    definition.breadthFirst.findSome? Form.offence? = none ↔
      ∀ form, definition.Holds form → ∀ e, ¬ form.Refused e := by
  simp only [Tree.breadthFirst_eq_walk, List.findSome?_eq_none_iff, Form.offence?_eq_none,
    Tree.mem_walk, List.mem_singleton, exists_eq_left]

/-- What keeps a function from being taken: the first form in it that is refused, or else what keeps it from
being written. -/
inductive Barred (room : Nat) (definition : Tree) : Error → Prop
  | refused {e : Error} (h : FirstRefused definition e) : Barred room definition e
  | unwritable {e : Error} (hclean : ∀ form, definition.Holds form → ∀ e, ¬ form.Refused e)
      (h : definition.Unwritable room e) : Barred room definition e

/-- What keeps a definition from being taken where there is room for so many frames, if anything does. -/
def fault? (room : Nat) (definition : Tree) : Option Error :=
  (definition.breadthFirst.findSome? Form.offence?).or (definition.writingFault? room)

section

variable {room : Nat} {definition : Tree}

theorem barred_of_fault? {e : Error} (h : fault? room definition = some e) : Barred room definition e := by
  rw [fault?, Option.or_eq_some_iff, findSome?_offence?_eq_some, findSome?_offence?_eq_none] at h
  rcases h with hrefused | ⟨hclean, hfault⟩
  · exact .refused hrefused
  · exact .unwritable hclean (Tree.unwritable_of_writingFault? hfault)

theorem fault?_of_firstRefused {e : Error} (h : FirstRefused definition e) :
    fault? room definition = some e := by
  rw [fault?, findSome?_offence?_eq_some.mpr h, Option.some_or]

theorem fault?_of_tooDeep (hclean : ∀ form, definition.Holds form → ∀ e, ¬ form.Refused e)
    (h : room < definition.frames) : fault? room definition = some .tooDeep := by
  rw [fault?, findSome?_offence?_eq_none.mpr hclean, Option.none_or, Tree.writingFault?, if_pos h]

theorem fault?_eq_none : fault? room definition = none ↔
    (∀ form, definition.Holds form → ∀ e, ¬ form.Refused e) ∧ definition.Writable room := by
  rw [fault?, Option.or_eq_none_iff, findSome?_offence?_eq_none, Tree.writingFault?_eq_none]

end

section

variable {room : Nat} {module : List Tree} {f : Function}

theorem ofModule_function {role : Role} {name : String} {parts : List Tree} :
    ofModule room [.node role (.function name) parts] =
      match fault? room (Tree.node role (.function name) parts).undecorated with
      | some e => .error e
      | none => .ok ⟨name, (Tree.node role (.function name) parts).undecorated⟩ := by
  rw [ofModule, fault?]
  cases (Tree.node role (.function name) parts).undecorated.breadthFirst.findSome? Form.offence? <;> rfl

theorem ofModule_of_not_function (h : ∀ role name parts, module ≠ [.node role (.function name) parts]) :
    ofModule room module = .error .notOneFunction := by
  rw [ofModule]
  exact fun role name parts hmodule => h role name parts hmodule

theorem ofModule_eq_ok :
    ofModule room module = .ok f ↔ ∃ role parts, module = [.node role (.function f.name) parts] ∧
      f.definition = .node role (.function f.name) (parts.filter fun part => part.role ≠ .decorator) ∧
      (∀ form, f.definition.Holds form → ∀ e, ¬ form.Refused e) ∧ f.definition.Writable room := by
  constructor
  · intro h
    by_cases hone : ∃ role name parts, module = [.node role (.function name) parts]
    · obtain ⟨role, name, parts, rfl⟩ := hone
      rw [ofModule_function] at h
      cases hfault : fault? room (Tree.node role (.function name) parts).undecorated with
      | some e => simp only [hfault, reduceCtorEq] at h
      | none =>
        simp only [hfault, Except.ok.injEq] at h
        subst h
        exact ⟨role, parts, rfl, rfl, fault?_eq_none.mp hfault⟩
    · have hrefused : ofModule room module = .error .notOneFunction :=
        ofModule_of_not_function fun role name parts hmodule => hone ⟨role, name, parts, hmodule⟩
      cases hrefused.symm.trans h
  · rintro ⟨role, parts, rfl, hdefinition, hclean⟩
    obtain ⟨name, definition⟩ := f
    obtain rfl : definition = (Tree.node role (.function name) parts).undecorated := hdefinition
    rw [ofModule_function, fault?_eq_none.mpr hclean]

theorem ofModule_eq_error {role : Role} {name : String} {parts : List Tree} {e : Error} :
    ofModule room [.node role (.function name) parts] = .error e ↔
      fault? room (.node role (.function name) (parts.filter fun part => part.role ≠ .decorator)) =
        some e := by
  rw [ofModule_function, Tree.undecorated]
  split
  · next h => rw [h, Except.error.injEq, Option.some.injEq]
  · next h => simp only [h, reduceCtorEq]

theorem ofModule_definition (h : ofModule room module = .ok f) : ofModule room [f.definition] = .ok f := by
  obtain ⟨role, parts, -, hdefinition, hclean⟩ := ofModule_eq_ok.mp h
  refine ofModule_eq_ok.mpr ⟨role, _, by rw [hdefinition], ?_, hclean⟩
  rw [hdefinition, List.filter_filter]
  simp

/-- What decorates a module is not part of what is taken. -/
theorem ofModule_decorateFirst (front : List Tree) :
    (trees : List Tree) → ofModule room (decorateFirst front trees) = ofModule room trees
  | [] => rfl
  | [.node role form parts] => by
    cases form with
    | function name =>
      have h := undecorated_decorate front (.node role (.function name) parts)
      rw [Grammar.decorate] at h
      rw [decorateFirst, Grammar.decorate, ofModule_function, ofModule_function, h]
    | _ => rfl
  | .node role form parts :: _ :: _ => by cases form <;> rfl

theorem ofTokens_of_module {ts : Tokens} (h : moduleOf ts = .ok module) :
    ofTokens room ts = (ofModule room module).map (·, ts.renewed) := by
  rw [ofTokens, h]
  change (ofModule room module >>= fun f => pure (f, ts.renewed)) = _
  cases ofModule room module <;> rfl

theorem ofTokens_of_diagnosis {ts : Tokens} {d : Diagnosis} (h : moduleOf ts = .error d) :
    ofTokens room ts = .error (.malformed d.malformation) := by
  rw [ofTokens, h]
  rfl

theorem ofTokens_eq_ok {ts us : Tokens} : ofTokens room ts = .ok (f, us) ↔
    ∃ module, moduleOf ts = .ok module ∧ ofModule room module = .ok f ∧ us = ts.renewed := by
  constructor
  · intro h
    cases hmodule : moduleOf ts with
    | error d => cases (ofTokens_of_diagnosis hmodule).symm.trans h
    | ok module =>
      rw [ofTokens_of_module hmodule] at h
      cases hf : ofModule room module with
      | error e => rw [hf] at h; cases h
      | ok g =>
        rw [hf] at h
        obtain ⟨rfl, rfl⟩ := Prod.mk.inj (Except.ok.inj h)
        exact ⟨module, rfl, hf, rfl⟩
  · rintro ⟨module, hmodule, hf, rfl⟩
    rw [ofTokens_of_module hmodule, hf]
    rfl

/-- What has been taken is taken again as it is handed on, where each of its names lasts and nothing else in it
is spelled otherwise. -/
theorem ofTokens_renewed {ts us : Tokens} (h : ofTokens room ts = .ok (f, us))
    (hlasts : ∀ t ∈ ts.undecorated.tokens, t.Lasts) (hspelled : ts.undecorated.respelled = ts.undecorated) :
    ofTokens room us = .ok (f, us) := by
  obtain ⟨module, hmodule, hf, rfl⟩ := ofTokens_eq_ok.mp h
  obtain ⟨front, v, s, hsplit, hread, rfl⟩ := exists_read_of_moduleOf hmodule
  rw [ofModule_decorateFirst] at hf
  exact ofTokens_eq_ok.mpr
    ⟨v.trees, moduleOf_renewed hlasts hspelled hsplit hread, hf,
      (renewed_renewed hlasts hspelled hsplit).symm⟩

theorem ofOrigin_draft {draft : List Draft.Stmt} (hnull : '\x00' ∉ Draft.writeModule draft) :
    ofOrigin room (.draft draft) = ofTokens room (tokensOf (Draft.writeModule draft)) := by
  rw [ofOrigin, if_neg]
  rwa [List.contains_iff_mem]

theorem ofOrigin_draft_eq_ok {draft : List Draft.Stmt} {us : Tokens} :
    ofOrigin room (.draft draft) = .ok (f, us) ↔ '\x00' ∉ Draft.writeModule draft ∧
      ∃ module, moduleOf (tokensOf (Draft.writeModule draft)) = .ok module ∧
        ofModule room module = .ok f ∧ us = (tokensOf (Draft.writeModule draft)).renewed := by
  by_cases hnull : '\x00' ∈ Draft.writeModule draft
  · simp [ofOrigin, hnull]
  · rw [ofOrigin_draft hnull, ofTokens_eq_ok, and_iff_right hnull]

end

/-! ## A function that does nothing -/

def idle (name : String) (decorators : List String) : Tree :=
  .node .plain (.function name) (.node .plain .part [.node .plain .part []] :: .node .body .pass [] ::
    decorators.map fun id => .node .decorator (.name id) [])

def idle? : List Tree → Option (String × List String)
  | [.node .plain (.function name)
      [.node .plain .part [.node .plain .part []], .node .body .pass []]] => some (name, [])
  | [.node .plain (.function name)
      [.node .plain .part [.node .plain .part []], .node .body .pass [],
        .node .decorator (.name id) []]] => some (name, [id])
  | _ => none

theorem eq_of_idle? {module : List Tree} {name : String} {decorators : List String}
    (h : idle? module = some (name, decorators)) : module = [idle name decorators] := by
  unfold idle? at h
  split at h
  · obtain ⟨rfl, rfl⟩ := Prod.mk.inj (Option.some.inj h)
    rfl
  · obtain ⟨rfl, rfl⟩ := Prod.mk.inj (Option.some.inj h)
    rfl
  · cases h

theorem moduleOf_idle {ts : Tokens} {name : String} {decorators : List String}
    (h : (moduleOf ts).toOption.bind idle? = some (name, decorators)) :
    moduleOf ts = .ok [idle name decorators] := by
  obtain ⟨module, hmodule, hidle⟩ := Option.bind_eq_some_iff.mp h
  cases hread : moduleOf ts with
  | error d => rw [hread] at hmodule; cases hmodule
  | ok read =>
    rw [hread] at hmodule
    obtain rfl := Option.some.inj hmodule
    rw [eq_of_idle? hidle]

def idleTokens (line : Nat) (name : Token) : List Token := [
  ⟨.mark, "def", line, 0⟩, name, ⟨.mark, "(", line, 1⟩, ⟨.name, "params", line, 1⟩,
  ⟨.mark, ")", line, 0⟩, ⟨.mark, ":", line, 0⟩, ⟨.lineEnd, "", line, 0⟩,
  ⟨.indent, "", line + 1, 0⟩, ⟨.mark, "pass", line + 1, 0⟩, ⟨.lineEnd, "", line + 1, 0⟩,
  ⟨.unindent, "", line + 2, 0⟩, ⟨.ending, "", line + 2, 0⟩]

theorem renewed_idleTokens {name : Token} (hline : name.line = 1)
    (hspelled : respell (idleTokens 1 name) = idleTokens 1 name) :
    (⟨(idleTokens 1 name).toArray, none⟩ : Tokens).renewed =
      ⟨(idleTokens 1 name.settled).toArray, none⟩ := by
  have hparams : Token.settled ⟨.name, "params", 1, 1⟩ = ⟨.name, "params", 1, 1⟩ := by
    decide +kernel
  have hname : { name.settled with line := 1 } = name.settled := by
    rw [← hline, ← Token.settled_line]
  have hbare : (⟨(idleTokens 1 name).toArray, none⟩ : Tokens).isDecorated = false := rfl
  rw [Tokens.renewed, undecorated_of_not_isDecorated hbare, Tokens.respelled]
  simp only [hspelled]
  simp [idleTokens, Recognizer.lineAt, Token.settled_of_ne, hparams, hline, hname]

/-! ## A function that looks far -/

def chain : Nat → Tree
  | 0 => .node .plain (.name "a") []
  | n + 1 => .node .plain (.attribute "a") [chain n]

/-- A function that looks up an attribute of what it has looked up, as often as is said. -/
def lookup (n : Nat) : Tree :=
  .node .plain (.function "f")
    [.node .plain .part [.node .plain .part []], .node .body .expression [chain n]]

theorem frames_chain : (n : Nat) → (chain n).frames = 3 * n + 1
  | 0 => rfl
  | n + 1 => by
    rw [chain, Tree.frames, Tree.framesAll, Tree.framesAll, frames_chain n]
    simp only [Form.isDescribed, Bool.false_and, Bool.false_eq_true, if_false, Form.ownFrames,
      Form.stepFrames]
    omega

theorem frames_lookup (n : Nat) : (lookup n).frames = 3 * n + 10 := by
  have hparams : Tree.frames (.node .plain .part [.node .plain .part []]) = 4 := rfl
  have hexpression : (Tree.node .body .expression [chain n]).frames = 3 * n + 4 := by
    rw [Tree.frames, Tree.framesAll, Tree.framesAll, frames_chain]
    simp only [Form.isDescribed, Bool.false_and, Bool.false_eq_true, if_false, Form.ownFrames,
      Form.stepFrames]
    omega
  have hbody : Tree.isDescription (.node .body .expression [chain n]) = false := by cases n <;> rfl
  rw [lookup, Tree.frames, Tree.framesAll, Tree.framesAll, Tree.framesAll, hparams, hexpression, hbody]
  simp only [Tree.isDescription, Bool.and_false, Bool.false_eq_true, if_false, Form.ownFrames,
    Form.stepFrames, Tree.role]
  omega

theorem not_refused_of_holds_chain {form : Form} :
    (n : Nat) → (chain n).Holds form → ∀ e, ¬ form.Refused e
  | 0, h => by
    obtain rfl | ⟨_, hpart, -⟩ := Tree.holds_node.mp h
    · exact Form.offence?_eq_none.mp (by decide)
    · cases hpart
  | n + 1, h => by
    obtain rfl | ⟨_, hpart, hheld⟩ := Tree.holds_node.mp h
    · exact Form.offence?_eq_none.mp (by decide)
    · obtain rfl := List.mem_singleton.mp hpart
      exact not_refused_of_holds_chain n hheld

theorem not_refused_of_holds_lookup {n : Nat} {form : Form} (h : (lookup n).Holds form) :
    ∀ e, ¬ form.Refused e := by
  simp only [lookup, Tree.holds_node, List.mem_cons, List.not_mem_nil, or_false, exists_eq_or_imp,
    exists_eq_left, false_and, exists_false] at h
  rcases h with rfl | (rfl | rfl) | rfl | hheld
  · exact Form.offence?_eq_none.mp rfl
  · exact Form.offence?_eq_none.mp rfl
  · exact Form.offence?_eq_none.mp rfl
  · exact Form.offence?_eq_none.mp rfl
  · exact not_refused_of_holds_chain n hheld

/-- A function that looks too far cannot be written, whatever there is room for. -/
theorem ofModule_lookup {room n : Nat} (h : room < 3 * n + 10) :
    ofModule room [lookup n] = .error .tooDeep :=
  ofModule_eq_error.mpr (fault?_of_tooDeep (fun _ => not_refused_of_holds_lookup) (frames_lookup n ▸ h))

/-! ## What is read of a draft -/

section

variable {room : Nat} {draft : List Draft.Stmt} {ts : Tokens}

theorem exists_module {P : List Tree → Bool} (h : (moduleOf ts).toOption.any P = true) :
    ∃ module, moduleOf ts = .ok module ∧ P module = true := by
  cases hmodule : moduleOf ts with
  | error d => rw [hmodule] at h; cases h
  | ok module => rw [hmodule] at h; exact ⟨module, rfl, h⟩

/-- The function that tokens spell, where it is taken. -/
def taken? (room : Nat) (ts : Tokens) : Option Function :=
  (moduleOf ts).toOption.bind fun module => (ofModule room module).toOption

theorem ofTokens_of_taken? {f : Function} (h : taken? room ts = some f) :
    ofTokens room ts = .ok (f, ts.renewed) := by
  obtain ⟨module, hmodule, hf⟩ := Option.bind_eq_some_iff.mp h
  cases hread : moduleOf ts with
  | error d => rw [hread] at hmodule; cases hmodule
  | ok read =>
    rw [hread] at hmodule
    obtain rfl := Option.some.inj hmodule
    cases htaken : ofModule room read with
    | error e => rw [htaken] at hf; cases hf
    | ok g =>
      rw [htaken] at hf
      obtain rfl := Option.some.inj hf
      exact ofTokens_eq_ok.mpr ⟨read, hread, htaken, rfl⟩

theorem exists_taken_not_read (hnull : '\x00' ∉ Draft.writeModule draft)
    (htaken : (taken? room (tokensOf (Draft.writeModule draft))).isSome = true)
    (hread : (Recognizer.read (tokensOf (Draft.writeModule draft)).renewed.undecorated false 0).isFound =
      false) :
    ∃ f us, ofOrigin room (.draft draft) = .ok (f, us) ∧ ∀ again, ofTokens room us ≠ .ok again := by
  obtain ⟨f, hf⟩ := Option.isSome_iff_exists.mp htaken
  refine ⟨f, _, (ofOrigin_draft hnull).trans (ofTokens_of_taken? hf), fun ⟨g, vs⟩ hagain => ?_⟩
  obtain ⟨module, hmodule, -, -⟩ := ofTokens_eq_ok.mp hagain
  exact moduleOf_ne_ok hread module hmodule

/-- The kinds of the forms in a function that is taken. -/
def kindsIn? (room : Nat) (ts : Tokens) : Option (List Kind) :=
  (taken? room ts).map fun f => f.definition.breadthFirst.map Form.kind

theorem exists_taken_read_otherwise (hnull : '\x00' ∉ Draft.writeModule draft)
    (h : (kindsIn? room (tokensOf (Draft.writeModule draft))).any (fun kinds =>
      (kindsIn? room (tokensOf (Draft.writeModule draft)).renewed).any (· ≠ kinds)) = true) :
    ∃ f us g vs, ofOrigin room (.draft draft) = .ok (f, us) ∧ ofTokens room us = .ok (g, vs) ∧
      g.definition ≠ f.definition := by
  rw [kindsIn?, kindsIn?] at h
  cases htaken : taken? room (tokensOf (Draft.writeModule draft)) with
  | none => rw [htaken] at h; cases h
  | some f =>
    cases hagain : taken? room (tokensOf (Draft.writeModule draft)).renewed with
    | none => rw [htaken, hagain] at h; cases h
    | some g =>
      rw [htaken, hagain] at h
      have hkinds : g.definition.breadthFirst.map Form.kind ≠ f.definition.breadthFirst.map Form.kind :=
        of_decide_eq_true h
      refine ⟨f, _, g, _, (ofOrigin_draft hnull).trans (ofTokens_of_taken? htaken),
        ofTokens_of_taken? hagain, fun hsame => hkinds ?_⟩
      rw [hsame]

/-- What a module is refused for. -/
def refusal? (room : Nat) (module : List Tree) : Option Error :=
  match ofModule room module with
  | .ok _ => none
  | .error e => some e

theorem ofModule_of_refusal? {module : List Tree} {e : Error} (h : refusal? room module = some e) :
    ofModule room module = .error e := by
  rw [refusal?] at h
  split at h
  · cases h
  · next hfault => rw [hfault, Option.some.inj h]

def isClean (module : List Tree) : Bool :=
  module.all fun t => t.breadthFirst.all fun form => form.offence?.isNone

theorem not_refused_of_isClean {module : List Tree} (h : isClean module = true) {t : Tree} (ht : t ∈ module)
    {form : Form} (hheld : t.Holds form) : ∀ e, ¬ form.Refused e := by
  have hforms := List.all_eq_true.mp h t ht
  rw [Tree.breadthFirst_eq_walk, List.all_eq_true] at hforms
  have hform := hforms form ((Tree.mem_walk _).mpr ⟨t, List.mem_singleton_self t, hheld⟩)
  exact Form.offence?_eq_none.mp (Option.isNone_iff_eq_none.mp hform)

end

/-! ## What is taken -/

-- The name comes behind the attribute in the text, and before it in the walk.
example : ofModule Function.room [.node .plain (.function "f") [
    .node .body .expression [.node .plain .call [
      .node .plain (.attribute "__class__") [.node .plain (.name "x") []]]],
    .node .body .ret [.node .plain (.name "__builtins__") []]]] =
      .error (.name "__builtins__") := rfl

instance (t : Token) : Decidable t.Lasts :=
  inferInstanceAs (Decidable (_ ∧ _))

/-- A function whose one statement is spelled so. -/
def stating (spelling : String) : List Draft.Stmt :=
  [.function "f" [.expression (.name spelling)] []]

/-- A function whose name is a reserved word in its normal form. -/
def naming : List Draft.Stmt :=
  [.function "ªs" [.pass] []]

/-- A function with all kinds of quotes in a formatted text, which is written with a backslash in its braces. -/
def escaping : List Draft.Stmt :=
  stating "f''' \"\"\" \\'\\'\\' \x7bd[\"'\"]\x7d'''"

/-- A function with a blank in the braces of a formatted text that only an escape can show. -/
def concealing : List Draft.Stmt :=
  stating "f'\x7b\"\u00a0\"\x7d'"

/-- A function with a pair in parentheses of its own, which is written as two items. -/
def pairing : List Draft.Stmt :=
  stating "with ((a, b)): pass"

theorem exists_reserved_name :
    ∃ f us, ofOrigin Function.room (.draft naming) = .ok (f, us) ∧
      ∀ again, ofTokens Function.room us ≠ .ok again := by
  have htokens : tokensOf (Draft.writeModule naming) =
      ⟨(idleTokens 1 ⟨.name, "ªs", 1, 0⟩).toArray, none⟩ := by decide +kernel
  have hnormal : Text.normalForm "ªs" = "as" := by
    have hletter : Text.decompose 'ª' = ['a'] := by
      rw [Text.decompose_of_lt (by decide)]
      decide +kernel
    have hletters : "ªs".toList.flatMap Text.decompose = ['a', 's'] := by
      simp [hletter, Text.decompose_ascii]
    have hascii : ∀ c ∈ "ªs".toList.flatMap Text.decompose, c.toNat < 0x80 := by
      rw [hletters]
      simp
    rw [Text.normalForm_of_decomposed hascii, hletters]
  have hsettled : Token.settled ⟨.name, "ªs", 1, 0⟩ = ⟨.mark, "as", 1, 0⟩ := by
    simp only [Token.settled, hnormal]
    decide +kernel
  have hrenewed : (tokensOf (Draft.writeModule naming)).renewed =
      ⟨(idleTokens 1 ⟨.mark, "as", 1, 0⟩).toArray, none⟩ := by
    rw [htokens, renewed_idleTokens rfl (by decide +kernel), hsettled]
  exact exists_taken_not_read (by decide +kernel) (htokens ▸ by decide +kernel)
    (hrenewed ▸ by decide +kernel)

theorem exists_escaped_quote :
    ∃ f us, ofOrigin Function.room (.draft escaping) = .ok (f, us) ∧
      ∀ again, ofTokens Function.room us ≠ .ok again :=
  exists_taken_not_read (by decide +kernel) (by decide +kernel) (by decide +kernel)

theorem exists_wrapped_pair :
    ∃ f us g vs, ofOrigin Function.room (.draft pairing) = .ok (f, us) ∧
      ofTokens Function.room us = .ok (g, vs) ∧ g.definition ≠ f.definition :=
  exists_taken_read_otherwise (by decide +kernel) (by decide +kernel)

theorem exists_hidden_blank :
    ∃ module, moduleOf (tokensOf (Draft.writeModule concealing)) = .ok module ∧
      (∀ t ∈ module, ∀ form, t.Holds form → ∀ e, ¬ form.Refused e) ∧
        ofModule Function.room module = .error .backslash := by
  have hread : (moduleOf (tokensOf (Draft.writeModule concealing))).toOption.any
      (fun module => isClean module && refusal? Function.room module = some .backslash) = true := by
    decide +kernel
  obtain ⟨module, hmodule, h⟩ := exists_module hread
  obtain ⟨hclean, hrefusal⟩ := Bool.and_eq_true_iff.mp h
  exact ⟨module, hmodule, fun t ht _ => not_refused_of_isClean hclean ht,
    ofModule_of_refusal? (of_decide_eq_true hrefusal)⟩

end Function

end MemoryShell.Source
