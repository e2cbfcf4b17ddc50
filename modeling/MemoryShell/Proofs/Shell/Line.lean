import MemoryShell.Proofs.Command.Builtins
import MemoryShell.Proofs.Shell.Dispatch

set_option autoImplicit false

namespace MemoryShell

namespace Registry

theorem resolve?_register {α : Type} (r : Registry α) (name other : String) (command : α) :
    (r.register name command).resolve? other =
      if Text.lowercase name = other then some command else r.resolve? other := by
  unfold register resolve?
  split
  · rename_i h
    rw [← h, OrderedMap.find?_insert_self]
  · rename_i h
    rw [OrderedMap.find?_insert_of_ne _ _ h]

theorem offered_of_command {α : Type} {name : String} {offer : Offer α} {command : α}
    (h : offer.command name = .ok command) : offer = .made (.command command) := by
  cases offer with
  | refusesShell => cases h
  | made candidate =>
    cases candidate with
    | command c => rw [Except.ok.inj h]
    | _ => cases h

theorem resolve?_registerAll {α : Type} {offers : List (String × Offer α)} {r r' : Registry α}
    (h : r.registerAll offers = .ok r') {name : String} {command : α}
    (hcommand : r'.resolve? name = some command) :
    r.resolve? name = some command ∨ ∃ given, (given, .made (.command command)) ∈ offers := by
  induction offers generalizing r with
  | nil =>
    rw [Except.ok.inj h]
    exact .inl hcommand
  | cons offer rest ih =>
    obtain ⟨given, offered⟩ := offer
    rw [registerAll] at h
    cases htaken : offered.command given with
    | error e =>
      rw [htaken] at h
      cases h
    | ok c =>
      rw [htaken] at h
      rcases ih h with hbefore | ⟨other, hmem⟩
      · rw [resolve?_register] at hbefore
        split at hbefore
        · obtain rfl := Option.some.inj hbefore
          rw [offered_of_command htaken]
          exact .inr ⟨given, List.mem_cons_self⟩
        · exact .inl hbefore
      · exact .inr ⟨other, List.mem_cons_of_mem _ hmem⟩

end Registry

namespace Shell

open Commands

/-- Every name that has a command has a built-in one. -/
def BuiltIn (registry : Registry Command) : Prop :=
  ∀ name command, registry.resolve? name = some command → ∃ b, command = .builtin b

theorem builtIn_registerAll {offers : List (String × Offer Command)} {r r' : Registry Command}
    (hoffers : ∀ offer ∈ offers, ∃ b, offer.2 = .made (.command (.builtin b))) (hr : BuiltIn r)
    (h : r.registerAll offers = .ok r') : BuiltIn r' := by
  intro name command hcommand
  rcases Registry.resolve?_registerAll h hcommand with hbefore | ⟨given, hmem⟩
  · exact hr name command hbefore
  · obtain ⟨b, hb⟩ := hoffers _ hmem
    cases hb
    exact ⟨b, rfl⟩

theorem builtIn_builtins {registry : Registry Command}
    (h : Registry.empty.registerAll builtins = .ok registry) : BuiltIn registry := by
  refine builtIn_registerAll (fun offer hoffer => ?_) (fun name command hc => by cases hc) h
  obtain ⟨b, -, rfl⟩ := List.mem_map.mp hoffer
  exact ⟨b, rfl⟩

def Unhooked (s : Shell) : Prop :=
  ∀ stage, s.hooksAt stage = []

/-- An accord of shells whose commands are built in, which no message and no run of hooks ends. -/
structure LineAccord (R : Shell → Shell → Prop) : Prop extends Accord R where
  record : ∀ step, Coupled R Eq (record step) (record step)
  emit : ∀ c message, Coupled R (fun a b => a = message ∧ b = message) (emit c message)
    (emit c message)
  registry : ∀ {s t}, R s t → s.registry = t.registry
  builtIn : ∀ {s t}, R s t → BuiltIn s.registry
  runHooks : ∀ {execute : Json → ShellM Json},
    (∀ line, Coupled R SameString (execute line) (execute line)) →
      ∀ stage command args output, Coupled R Eq (runHooks execute stage command args output)
        (runHooks execute stage command args output)

theorem coupled_runHooks_of_unhooked {R : Shell → Shell → Prop}
    (h : ∀ {s t}, R s t → Unhooked s ∧ Unhooked t) (execute : Json → ShellM Json) (stage : Stage)
    (command : Json) (args : List Json) (output : Option Json) :
    Coupled R Eq (runHooks execute stage command args output)
      (runHooks execute stage command args output) := by
  refine Coupled.get.bind fun s t hst => ?_
  obtain ⟨hs, ht⟩ := h hst
  rw [hs stage, ht stage]
  exact Coupled.pure rfl

namespace LineAccord

variable {R : Shell → Shell → Prop} (hR : LineAccord R)

include hR

theorem complain (message : Text) :
    Coupled R SameString (complain message) (complain message) :=
  (hR.emit .stderr _).mono fun _ _ ⟨ha, hb⟩ => ⟨ha.trans hb.symm, _, ha⟩

theorem handOver (tokens : Tokens) (t : Text) (redirection : Option Redirection) :
    Coupled R SameString (handOver tokens (.string t) redirection)
      (handOver tokens (.string t) redirection) := by
  cases redirection with
  | none => exact (hR.emit .stdout _).mono fun _ _ ⟨ha, hb⟩ => ⟨ha.trans hb.symm, t, ha⟩
  | some r => exact hR.toAccord.redirect hR.record hR.emit _ _ _ _

section

variable {execute : Json → ShellM Json}
  (hexecute : ∀ line, Coupled R SameString (execute line) (execute line))

include hexecute

theorem runStages (tokens : Tokens) (b : Builtin) :
    Coupled R SameText (runStages execute tokens (.builtin b))
      (runStages execute tokens (.builtin b)) := by
  refine (hR.runHooks hexecute _ _ _ _).bind fun _ _ _ => ?_
  refine (hR.record _).bind fun _ _ _ => ?_
  have hinvoke : Coupled R SameText (invoke execute (.builtin b) tokens.args)
      (invoke execute (.builtin b) tokens.args) :=
    Coupled.get.bind fun _ _ _ => coupled_runBuiltin hR.toAccord b tokens.args
  refine hinvoke.bind fun o other ⟨hsame, ho⟩ => ?_
  subst hsame
  cases o with
  | refused kind message => exact Coupled.pure ⟨rfl, trivial⟩
  | output v => exact (hR.runHooks hexecute _ _ _ _).bind fun _ _ _ => Coupled.pure ⟨rfl, ho⟩

theorem dispatch (tokens : Tokens) (redirection : Option Redirection) (b : Builtin) :
    Coupled R SameString (dispatch execute tokens redirection (.builtin b))
      (dispatch execute tokens redirection (.builtin b)) := by
  refine (hR.runStages hexecute tokens b).attempt.bind fun x y hxy => ?_
  rcases hxy.cases with ⟨o, other, rfl, rfl, hsame, ho⟩ | ⟨f, rfl, rfl⟩
  · subst hsame
    cases o with
    | refused kind message => exact hR.complain _
    | output v =>
      obtain ⟨t, rfl⟩ := ho
      exact hR.handOver tokens t redirection
  · exact hR.complain _

theorem executeWith (line : Json) :
    Coupled R SameString (executeWith execute line) (executeWith execute line) := by
  intro s t hst
  rw [outcome_executeWith, outcome_executeWith, ← hR.registry hst]
  cases he : errand s.registry line with
  | error message => exact hR.complain message s t hst
  | ok e =>
    obtain ⟨name, -, hknown⟩ := Registry.resolve?_of_called? (resolves_of_errand he).known
    obtain ⟨b, hbuiltin⟩ := hR.builtIn hst name e.command hknown
    simp only [hbuiltin]
    exact hR.dispatch hexecute e.tokens e.redirection b s t hst

end

theorem executeWithin (depth : Nat) (line : Json) :
    Coupled R SameString (executeWithin depth line) (executeWithin depth line) := by
  induction depth generalizing line with
  | zero => exact Coupled.throw _
  | succ depth ih => exact hR.executeWith ih line

theorem execute (line : Json) : Coupled R SameString (execute line) (execute line) :=
  hR.executeWithin nestingLimit line

end LineAccord

end Shell

end MemoryShell
