import MemoryShell.Proofs.Shell.History
import MemoryShell.Proofs.Shell.Redirect

/-!
When a line has an answer. Whatever goes wrong before the output of a command is handed over is said
on the channel for complaints, and so is what goes wrong with a redirection on an open volume. The
lines without an answer are redirected ones, on a released volume or with an output that has no octets.
-/

set_option autoImplicit false

namespace MemoryShell.Shell

/-- The command of a line has come to an output. -/
structure Outputs (s : Shell) (line : Json) (redirection : Option Redirection) (tokens : Tokens)
    (command : Command) (output : Json) (t : Shell) : Prop where
  read : ∃ text, line.text? = some text ∧ CommandLine.isBlankLine text = false ∧
    Tokens.ofText (CommandLine.parse text).command = .ok tokens ∧
    (CommandLine.parse text).redirection = redirection
  named : tokens.name ≠ []
  known : s.registry.called? tokens.name = some command
  stages : outcome (runStages (executeWithin (nestingLimit - 1)) tokens command) s =
    (.ok (.output output), t)

def failureOf (s : Shell) (line : Json) : Option Text :=
  match line.text? with
  | none => some (Message.noCommand Message.shellName)
  | some text =>
    if CommandLine.isBlankLine text then some (Message.noCommand Message.shellName)
    else
      match Tokens.ofText (CommandLine.parse text).command with
      | .error e => some ↑e.message
      | .ok tokens =>
        if tokens.name = [] then some (Message.noCommand Message.shellName)
        else
          match s.registry.called? tokens.name with
          | none => some (Message.commandNotFound tokens.name)
          | some command =>
            match (outcome (runStages (executeWithin (nestingLimit - 1)) tokens command) s).1 with
            | .error f => some (Message.orUnknown f.message)
            | .ok (.refused _ message) => some (Message.orUnknown message)
            | .ok (.output _) => none

theorem failureOf_eq (s : Shell) (line : Json) :
    failureOf s line =
      match errand s.registry line with
      | .error message => some message
      | .ok e =>
        match (outcome (runStages (executeWithin (nestingLimit - 1)) e.tokens e.command) s).1 with
        | .error f => some (Message.orUnknown f.message)
        | .ok (.refused _ message) => some (Message.orUnknown message)
        | .ok (.output _) => none := by
  unfold failureOf errand
  cases line.text? with
  | none => rfl
  | some text =>
    by_cases hblank : CommandLine.isBlankLine text = true
    · simp only [hblank, if_true]
    · simp only [hblank, Bool.false_eq_true, if_false]
      cases Tokens.ofText (CommandLine.parse text).command with
      | error e => rfl
      | ok tokens =>
        by_cases hname : tokens.name = []
        · simp only [hname, if_true]
        · simp only [hname, if_false]
          cases s.registry.called? tokens.name with
          | none => rfl
          | some command => rfl

theorem execute_cases (s : Shell) (line : Json) :
    (∃ message, failureOf s line = some message ∧
      Says (outcome (execute line) s) .stderr (.string (Message.prefixed message))) ∨
    (failureOf s line = none ∧ ∃ redirection tokens command output t,
      Outputs s line redirection tokens command output t ∧
        outcome (execute line) s = outcome (handOver tokens output redirection) t) := by
  have hlimit : execute line = executeWith (executeWithin (nestingLimit - 1)) line := rfl
  rw [hlimit, outcome_executeWith, failureOf_eq]
  cases he : errand s.registry line with
  | error message => exact .inl ⟨message, rfl, says_complain message s⟩
  | ok e =>
    obtain ⟨hread, hnamed, hknown⟩ := resolves_of_errand he
    unfold dispatch
    simp only [outcome_bind, outcome_attempt]
    rcases hrun : outcome (runStages (executeWithin (nestingLimit - 1)) e.tokens e.command) s
      with ⟨f | (output | ⟨kind, message⟩), t⟩
    · exact .inl ⟨_, rfl, says_complain _ t⟩
    · exact .inr ⟨rfl, _, e.tokens, e.command, output, t, ⟨hread, hnamed, hknown, hrun⟩, rfl⟩
    · exact .inl ⟨_, rfl, says_complain _ t⟩

/-- The command of a line has come to an output that is redirected. -/
def Redirects (s : Shell) (line : Json) : Prop :=
  ∃ r tokens command output t, Outputs s line (some r) tokens command output t

/-- The command of a line has come to an output that is redirected and cannot be written. -/
def RedirectsUnwritable (s : Shell) (line : Json) : Prop :=
  ∃ r tokens command output t, Outputs s line (some r) tokens command output t ∧
    Unwritable t output.display r.target

theorem RedirectsUnwritable.redirects {s : Shell} {line : Json} (h : RedirectsUnwritable s line) :
    Redirects s line := by
  obtain ⟨r, tokens, command, output, t, hout, -⟩ := h
  exact ⟨r, tokens, command, output, t, hout⟩

theorem Outputs.unique {s t t' : Shell} {line : Json} {redirection redirection' : Option Redirection}
    {tokens tokens' : Tokens} {command command' : Command} {output output' : Json}
    (h : Outputs s line redirection tokens command output t)
    (h' : Outputs s line redirection' tokens' command' output' t') :
    redirection = redirection' ∧ output = output' ∧ t = t' := by
  obtain ⟨text, hline, -, htokens, rfl⟩ := h.read
  obtain ⟨text', hline', -, htokens', rfl⟩ := h'.read
  obtain rfl := Option.some.inj (hline.symm.trans hline')
  obtain rfl := Except.ok.inj (htokens.symm.trans htokens')
  obtain rfl := Option.some.inj (h.known.symm.trans h'.known)
  obtain ⟨houtput, rfl⟩ := Prod.mk.inj (h.stages.symm.trans h'.stages)
  exact ⟨rfl, by simpa using houtput, rfl⟩

theorem Outputs.failureOf {s t : Shell} {line : Json} {redirection : Option Redirection}
    {tokens : Tokens} {command : Command} {output : Json}
    (h : Outputs s line redirection tokens command output t) : failureOf s line = none := by
  obtain ⟨text, hline, hblank, htokens, -⟩ := h.read
  simp [Shell.failureOf, hline, hblank, htokens, h.named, h.known, h.stages]

variable {config : Config} {registry : Registry Command}

theorem handOver_cases {t : Shell} {released : Bool} (ht : Standing config registry released t)
    (tokens : Tokens) (output : Json) (redirection : Option Redirection) :
    (∃ r, redirection = some r ∧ released = true ∧
      outcome (handOver tokens output redirection) t = (.error (.volume .released), t)) ∨
    (∃ r, redirection = some r ∧ released = false ∧ Unwritable t output.display r.target ∧
      outcome (handOver tokens output redirection) t = (.error (.volume .unencodable), t)) ∨
    (∃ r, redirection = some r ∧ released = false ∧ ¬ Unwritable t output.display r.target ∧
      ∃ c message, Says (outcome (handOver tokens output redirection) t) c
        (.string (Message.prefixed message)) ∧ (c = .stderr ∨ message = [])) ∨
    (redirection = none ∧ Says (outcome (handOver tokens output redirection) t) .stdout output) := by
  cases redirection with
  | none => exact .inr (.inr (.inr ⟨rfl, says_emit .stdout output t⟩))
  | some r =>
    cases released with
    | true =>
      exact .inl ⟨r, rfl, rfl, outcome_redirect_released ht.absolute ht.released _ _ _ _⟩
    | false =>
      rcases redirect_cases ht.absolute ht.released output.display r.operator r.target tokens.name with
        ⟨hunwritable, hfails⟩ | ⟨hwritable, hsays⟩
      · exact .inr (.inl ⟨r, rfl, rfl, hunwritable, hfails⟩)
      · exact .inr (.inr (.inl ⟨r, rfl, rfl, hwritable, hsays⟩))

theorem Redirects.failureOf {s : Shell} {line : Json} (h : Redirects s line) :
    failureOf s line = none := by
  obtain ⟨r, tokens, command, output, t, hout⟩ := h
  exact hout.failureOf

/-- What becomes of a line: it is complained about, its output is lost because the volume is released
or because it cannot be written, its output is redirected, or its output is said. -/
inductive Verdict (config : Config) (s : Shell) (line : Json) (r : Except Failure Json × Shell) :
    Prop
  | complained (message : Text) (hfailure : failureOf s line = some message)
      (hsaid : Says r .stderr (.string (Message.prefixed message)))
  | lost (hredirects : Redirects s line) (hreleased : s.volume.released = true)
      (hfails : r.1 = .error (.volume .released))
  | unwritten (hredirects : RedirectsUnwritable s line) (hopen : s.volume.released = false)
      (hfails : r.1 = .error (.volume .unencodable))
  | redirected (c : Channel) (message : Text) (hredirects : Redirects s line)
      (hwritable : ¬ RedirectsUnwritable s line) (hopen : s.volume.released = false)
      (hsaid : Says r c (.string (Message.prefixed message))) (hc : c = .stderr ∨ message = [])
  | said (output : Json) (hplain : ¬ Redirects s line) (hnone : failureOf s line = none)
      (hsaid : Says r .stdout output)
      (htext : (∀ name command, s.registry.resolve? name = some command →
        Speaking config command) → ∃ t, output = .string t)

theorem verdict {s : Shell} {released : Bool} (hs : Standing config registry released s)
    (line : Json) : Verdict config s line (outcome (execute line) s) := by
  rcases execute_cases s line with ⟨message, hfailure, hspoken⟩ |
    ⟨hnone, redirection, tokens, command, output, t, hout, hrun⟩
  · exact .complained message hfailure hspoken
  · have hkept := sustained_standing.keeps_runStages
      (sustained_standing.keeps_executeWithin (nestingLimit - 1)) tokens command s hs
    rw [hout.stages] at hkept
    obtain ⟨htext, ht⟩ := hkept
    rw [hrun]
    rcases handOver_cases ht tokens output redirection with ⟨r, rfl, hrel, hfails⟩ |
      ⟨r, rfl, hrel, hunwritable, hfails⟩ | ⟨r, rfl, hrel, hwritable, c, message, hspoken, hc⟩ |
      ⟨rfl, hspoken⟩
    · exact .lost ⟨r, tokens, command, output, t, hout⟩ (hs.released.trans hrel) (by rw [hfails])
    · exact .unwritten ⟨r, tokens, command, output, t, hout, hunwritable⟩ (hs.released.trans hrel)
        (by rw [hfails])
    · refine .redirected c message ⟨r, tokens, command, output, t, hout⟩ ?_ (hs.released.trans hrel)
        hspoken hc
      rintro ⟨r', tokens', command', output', t', hout', hunwritable⟩
      obtain ⟨hr, rfl, rfl⟩ := hout.unique hout'
      obtain rfl := Option.some.inj hr
      exact hwritable hunwritable
    · obtain ⟨name, -, hknown⟩ := Registry.resolve?_of_called? hout.known
      refine .said output ?_ hnone hspoken fun hspeak =>
        htext (.output output) rfl (hspeak name command hknown)
      -- a line is read in one way only, so no other reading of it redirects
      rintro ⟨r, tokens', command', output', t', hout'⟩
      cases (hout.unique hout').1

namespace Verdict

variable {s : Shell} {line : Json} {r : Except Failure Json × Shell}

theorem fails_iff (h : Verdict config s line r) (f : Failure) :
    r.1 = .error f ↔
      (f = .volume .released ∧ s.volume.released = true ∧ Redirects s line) ∨
      (f = .volume .unencodable ∧ s.volume.released = false ∧ RedirectsUnwritable s line) := by
  have hopen : s.volume.released = false → s.volume.released ≠ true := fun h => by simp [h]
  cases h with
  | complained message hfailure hsaid =>
    have hnot : ¬ Redirects s line := fun hredirects => by simp [hredirects.failureOf] at hfailure
    have hnot' : ¬ RedirectsUnwritable s line := fun h => hnot h.redirects
    simp [hsaid.1, hnot, hnot']
  | lost hredirects hreleased hfails => simp [hfails, hredirects, hreleased, eq_comm]
  | unwritten hredirects hopen hfails => simp [hfails, hredirects, hopen, eq_comm]
  | redirected c message hredirects hwritable hopen hsaid hc => simp [hsaid.1, hopen, hwritable]
  | said output hplain hnone hsaid htext =>
    have hnot' : ¬ RedirectsUnwritable s line := fun h => hplain h.redirects
    simp [hsaid.1, hplain, hnot']

theorem answers (h : Verdict config s line r) {answer : Json} (ha : r.1 = .ok answer) :
    (∃ c, Says r c answer) ∧
      ((∀ name command, s.registry.resolve? name = some command → Speaking config command) →
        ∃ t, answer = .string t) := by
  cases h with
  | lost hredirects hreleased hfails =>
    rw [hfails] at ha
    cases ha
  | unwritten hredirects hopen hfails =>
    rw [hfails] at ha
    cases ha
  | complained message hfailure hsaid =>
    obtain rfl := Except.ok.inj (hsaid.1.symm.trans ha)
    exact ⟨⟨.stderr, hsaid⟩, fun _ => ⟨_, rfl⟩⟩
  | redirected c message hredirects hwritable hopen hsaid hc =>
    obtain rfl := Except.ok.inj (hsaid.1.symm.trans ha)
    exact ⟨⟨c, hsaid⟩, fun _ => ⟨_, rfl⟩⟩
  | said output hplain hnone hsaid htext =>
    obtain rfl := Except.ok.inj (hsaid.1.symm.trans ha)
    exact ⟨⟨.stdout, hsaid⟩, htext⟩

theorem complains (h : Verdict config s line r) {message : Text}
    (hm : failureOf s line = some message) :
    Says r .stderr (.string (Message.prefixed message)) := by
  have hnot : ¬ Redirects s line := fun hredirects => by simp [hredirects.failureOf] at hm
  cases h with
  | complained other hfailure hsaid => exact Option.some.inj (hfailure.symm.trans hm) ▸ hsaid
  | lost hredirects hreleased hfails => exact absurd hredirects hnot
  | unwritten hredirects hopen hfails => exact absurd hredirects.redirects hnot
  | redirected c other hredirects hwritable hopen hsaid hc => exact absurd hredirects hnot
  | said output hplain hnone hsaid htext =>
    rw [hnone] at hm
    cases hm

theorem redirects (h : Verdict config s line r) (hr : s.volume.released = false)
    (hredirects : Redirects s line) (hwritable : ¬ RedirectsUnwritable s line) :
    ∃ c message, Says r c (.string (Message.prefixed message)) ∧
      (c = .stderr ∨ message = []) := by
  cases h with
  | redirected c message _ _ _ hsaid hc => exact ⟨c, message, hsaid, hc⟩
  | complained message hfailure hsaid => exact ⟨.stderr, message, hsaid, .inl rfl⟩
  | lost _ hreleased _ =>
    rw [hreleased] at hr
    cases hr
  | unwritten hunwritable _ _ => exact absurd hunwritable hwritable
  | said output hplain _ _ _ => exact absurd hredirects hplain

end Verdict

theorem exists_answer {s : Shell} (hs : Standing config registry false s) (line : Json) :
    (∃ answer, (outcome (execute line) s).1 = .ok answer) ∨
      (outcome (execute line) s).1 = .error (.volume .unencodable) := by
  cases ha : (outcome (execute line) s).1 with
  | ok answer => exact .inl ⟨answer, rfl⟩
  | error f =>
    rcases ((verdict hs line).fails_iff f).mp ha with ⟨-, hreleased, -⟩ | ⟨rfl, -, -⟩
    · rw [hs.released] at hreleased
      cases hreleased
    · exact .inr rfl

/-- In every shell that comes about, a line fails exactly if the command of the line has come to an
output that is redirected, and the volume is released, or else the output has no octets and the file may
be written. Every other line has an answer, which was said: a failure before the output on the channel
for complaints, with the prefix of the shell, a failure of the redirection likewise. The answer is a
text if the commands of the host speak text. Hooks, listeners and commands of the host do here what
their descriptions can say; none of them closes or restores the shell or calls its files itself. -/
theorem execute_fails_iff {start now : Int} {settings : Settings}
    {commands : List (String × Offer Command)} {first s : Shell} {history : List (Int × Event)}
    (hfirst : build start settings commands = .ok first)
    (hs : { after first history with clock := now } = s) (line : Json) :
    (∀ f, (outcome (execute line) s).1 = .error f ↔
      (f = .volume .released ∧ s.volume.released = true ∧ Redirects s line) ∨
      (f = .volume .unencodable ∧ s.volume.released = false ∧ RedirectsUnwritable s line)) ∧
    (∀ answer, (outcome (execute line) s).1 = .ok answer →
      (∃ c, Says (outcome (execute line) s) c answer) ∧
      ((∀ name command, first.registry.resolve? name = some command →
        Speaking first.config command) → ∃ t, answer = .string t)) ∧
    (∀ message, failureOf s line = some message →
      Says (outcome (execute line) s) .stderr (.string (Message.prefixed message))) ∧
    (s.volume.released = false → Redirects s line → ¬ RedirectsUnwritable s line → ∃ c message,
      Says (outcome (execute line) s) c (.string (Message.prefixed message)) ∧
        (c = .stderr ∨ message = [])) := by
  obtain ⟨released, hafter⟩ := (grounded_build hfirst).after history
  have hstanding : Standing first.config first.registry released s := by
    subst hs
    exact ⟨hafter.config, hafter.registry, hafter.released, hafter.absolute⟩
  have hverdict := verdict hstanding line
  refine ⟨hverdict.fails_iff, fun answer hanswer => ?_, fun message hmessage =>
    hverdict.complains hmessage, hverdict.redirects⟩
  rw [← hstanding.registry]
  exact hverdict.answers hanswer

/-- In a shell that was closed a redirected line fails; before, the same line has an answer. -/
theorem execute_fails_iff_closed_echo :
    ∃ first, build 0 .usual builtins = .ok first ∧
      (outcome (execute (.ofString "echo hi > /f"))
        { after first [(1, .closed)] with clock := 2 }).1 = .error (.volume .released) ∧
      ∀ f, (outcome (execute (.ofString "echo hi > /f"))
        { after first [] with clock := 1 }).1 ≠ .error f := by
  have hline : (Json.ofString "echo hi > /f").text? = some "echo hi > /f" := by decide +kernel
  have hblank : CommandLine.isBlankLine "echo hi > /f" = false := by decide +kernel
  have hparse : CommandLine.parse "echo hi > /f" = ⟨"echo hi", some ⟨.write, "/f"⟩⟩ := by
    decide +kernel
  have htokens : Tokens.ofText "echo hi" = .ok ⟨"echo", ["hi"]⟩ := by decide +kernel
  have hread : ∃ text, (Json.ofString "echo hi > /f").text? = some text ∧
      CommandLine.isBlankLine text = false ∧
      Tokens.ofText (CommandLine.parse text).command = .ok ⟨"echo", ["hi"]⟩ ∧
      (CommandLine.parse text).redirection = some ⟨.write, "/f"⟩ :=
    ⟨_, hline, hblank, by rw [hparse, htokens], by rw [hparse]⟩
  refine ⟨_, rfl, ?_, ?_⟩
  · have hfirst : build 0 .usual builtins = .ok _ := rfl
    exact ((execute_fails_iff hfirst rfl _).1 _).mpr <| .inl ⟨rfl, rfl, ⟨.write, "/f"⟩,
      ⟨"echo", ["hi"]⟩, .builtin .echo, .ofString "hi", _, hread, by decide, rfl, rfl⟩
  · intro f hf
    rcases ((execute_fails_iff (show build 0 .usual builtins = .ok _ from rfl) rfl _).1 f).mp hf
      with ⟨-, hclosed, -⟩ | ⟨-, -, r, tokens, command, output, t, hout, hoctets, -⟩
    · exact Bool.false_ne_true hclosed
    · -- what `echo` has come to is known, and it has octets
      have houtput : output = .ofString "hi" := by
        refine (hout.unique (show Outputs _ _ (some ⟨.write, "/f"⟩) ⟨"echo", ["hi"]⟩
          (.builtin .echo) (.ofString "hi") _ from ⟨hread, by decide, rfl, rfl⟩)).2.1
      subst houtput
      revert hoctets
      decide +kernel

end MemoryShell.Shell
