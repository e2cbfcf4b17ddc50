import MemoryShell.Proofs.Command.Builtins
import MemoryShell.Proofs.Shell.Dispatch
import MemoryShell.Proofs.Shell.Surroundings

set_option autoImplicit false

namespace MemoryShell.Shell

/-- An invariant that nothing breaks of what happens while a line is executed. The commands of a shell may
run some scripts only. -/
structure Upheld (config : Config) (I : Shell → Prop) : Prop where
  config : ∀ {s}, I s → s.config = config
  stable : Stable I
  surrounded : Surrounded (fun _ => True) fun s t => s = t ∧ I s
  counted : ∀ {s}, I s → ∀ n, I { s with activeIsolates := n }
  served : ∀ {s}, I s → ∀ {name call}, s.registry.resolve? name = some (.script call) →
    ∀ limits, Keeps I (fun _ => True) (serve call.process limits)

/-- A host that speaks text gives the user as a text and outputs texts only. -/
structure Speaking (config : Config) (command : Command) : Prop where
  user : ∃ t, config.user = .string t
  output : ∀ output, command = .say output → ∃ t, output = .string t

namespace Upheld

variable {config : Config} {I : Shell → Prop} (hI : Upheld config I)

include hI

theorem keeps_record (step : Step) : Keeps I (fun _ => True) (record step) :=
  Keeps.of_coupled_eq (hI.surrounded.record trivial)

theorem keeps_emit (c : Channel) (message : Json) :
    Keeps I (fun a => a = message) (emit c message) :=
  Keeps.of_coupled ((hI.surrounded.emit (fun _ => trivial) c message).mono
    fun _ _ ⟨ha, hb⟩ => ⟨ha.trans hb.symm, ha⟩)

theorem keeps_complain (message : Text) : Keeps I (fun _ => True) (complain message) :=
  (hI.keeps_emit _ _).mono fun _ _ => trivial

theorem keeps_countIsolate (change : Int) : Keeps I (fun _ => True) (countIsolate change) :=
  Keeps.modify fun _ hs => hI.counted hs _

theorem keeps_handOver (tokens : Tokens) (output : Json) (redirection : Option Redirection) :
    Keeps I (fun _ => True) (handOver tokens output redirection) := by
  cases redirection with
  | none => exact (hI.keeps_emit _ _).mono fun _ _ => trivial
  | some r =>
    have hredirect : Coupled (fun s t => s = t ∧ I s) SameString
        (redirect output.display r.operator.symbol r.target tokens.name)
        (redirect output.display r.operator.symbol r.target tokens.name) :=
      hI.stable.accord.redirect (fun _ => hI.surrounded.record trivial)
        (hI.surrounded.emit fun _ => trivial) _ _ _ _
    exact Keeps.of_coupled_eq (hredirect.mono fun _ _ hab => hab.1)

section

variable {execute : Json → ShellM Json}
  (hexecute : ∀ line, Keeps I (fun _ => True) (execute line))

include hexecute

theorem keeps_runHooks (stage : Stage) (command : Json) (args : List Json) (output : Option Json) :
    Keeps I (fun _ => True) (runHooks execute stage command args output) :=
  Keeps.of_coupled_eq (hI.surrounded.runHooks (fun _ => trivial)
    (fun line => (hexecute line).coupled fun _ _ => rfl) (fun _ _ _ _ => trivial)
    stage command args output)

section

variable {command : Command}
  (hserve : ∀ call, command = .script call → ∀ limits,
    Keeps I (fun _ => True) (serve call.process limits))

include hserve

theorem keeps_invoke (args : List Text) :
    Keeps I (fun o => Speaking config command → Commands.SpeaksText o)
      (Commands.invoke execute command args) := by
  refine Keeps.get.bind fun s hs => ?_
  rw [hI.config hs]
  cases command with
  | builtin b =>
    exact (Keeps.of_coupled (Commands.coupled_runBuiltin hI.stable.accord b args)).mono
      fun _ htext _ => htext
  | say output => exact Keeps.pure fun hspeak => hspeak.output output rfl
  | refuse kind message => exact Keeps.pure fun _ => trivial
  | fail f => exact Keeps.throw f
  | user => exact Keeps.pure fun hspeak => hspeak.user
  | resolve =>
    refine (Keeps.mapM (fun a => ?_) args).bind fun _ _ =>
      Keeps.pure fun _ => Commands.speaksText_text _
    exact Keeps.of_coupled_eq (hI.stable.accord.resolve a)
  | searchPaths =>
    simp only
    split
    · exact Keeps.pure fun _ => Commands.speaksText_text _
    · exact Keeps.throw _
  | names => exact Keeps.get.bind fun _ _ => Keeps.pure fun _ => Commands.speaksText_text _
  | environment => exact Keeps.pure fun _ => Commands.speaksText_text _
  | arguments => exact Keeps.pure fun _ => Commands.speaksText_text _
  | evaluate =>
    refine (Keeps.mapM (fun a => hexecute (.string a)) args).bind fun results _ => ?_
    split
    · exact Keeps.pure fun _ => Commands.speaksText_text _
    · exact Keeps.throw _
  | script call =>
    exact (keeps_runIsolate (fun _ => hI.keeps_record _) hI.keeps_countIsolate
      (hserve call rfl) _).bind fun _ _ => Keeps.pure fun _ => Commands.speaksText_text _

theorem keeps_runStages (tokens : Tokens) :
    Keeps I (fun o => Speaking config command → Commands.SpeaksText o)
      (runStages execute tokens command) := by
  refine (hI.keeps_runHooks hexecute _ _ _ _).bind fun _ _ => ?_
  refine (hI.keeps_record _).bind fun _ _ => ?_
  refine (hI.keeps_invoke hexecute hserve tokens.args).bind fun o ho => ?_
  cases o with
  | refused kind message => exact Keeps.pure fun _ => trivial
  | output v => exact (hI.keeps_runHooks hexecute _ _ _ _).bind fun _ _ => Keeps.pure ho

theorem keeps_dispatch (tokens : Tokens) (redirection : Option Redirection) :
    Keeps I (fun _ => True) (dispatch execute tokens redirection command) := by
  refine (hI.keeps_runStages hexecute hserve tokens).attempt.bind fun r _ => ?_
  split
  · exact hI.keeps_complain _
  · exact hI.keeps_complain _
  · exact hI.keeps_handOver _ _ _

end

theorem keeps_executeWith (line : Json) : Keeps I (fun _ => True) (executeWith execute line) := by
  intro s hs
  rw [outcome_executeWith]
  cases he : errand s.registry line with
  | error message => exact hI.keeps_complain message s hs
  | ok e =>
    obtain ⟨name, -, hknown⟩ := Registry.resolve?_of_called? (resolves_of_errand he).known
    have hserve : ∀ call, e.command = .script call → ∀ limits,
        Keeps I (fun _ => True) (serve call.process limits) := by
      intro call hcall
      rw [hcall] at hknown
      exact hI.served hs hknown
    exact hI.keeps_dispatch hexecute hserve e.tokens e.redirection s hs

end

theorem keeps_executeWithin (depth : Nat) (line : Json) :
    Keeps I (fun _ => True) (executeWithin depth line) := by
  -- a hook or a command may execute any line, but one level deeper
  induction depth generalizing line with
  | zero => exact Keeps.throw _
  | succ depth ih => exact hI.keeps_executeWith ih line

theorem keeps_execute (line : Json) : Keeps I (fun _ => True) (execute line) :=
  hI.keeps_executeWithin nestingLimit line

end Upheld

end MemoryShell.Shell
