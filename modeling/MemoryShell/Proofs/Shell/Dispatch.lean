import MemoryShell.Proofs.Outcome
import MemoryShell.Shell.Execute

set_option autoImplicit false

namespace MemoryShell.Shell

/-- What a line is for: a command, its arguments and a redirection. -/
structure Errand where
  tokens : Tokens
  redirection : Option Redirection
  command : Command

def errand (registry : Registry Command) (line : Json) : Except Text Errand :=
  match line.text? with
  | none => .error (Message.noCommand Message.shellName)
  | some text =>
    if CommandLine.isBlankLine text then .error (Message.noCommand Message.shellName)
    else
      match Tokens.ofText (CommandLine.parse text).command with
      | .error e => .error e.message
      | .ok tokens =>
        if tokens.name = [] then .error (Message.noCommand Message.shellName)
        else
          match registry.called? tokens.name with
          | none => .error (Message.commandNotFound tokens.name)
          | some command => .ok ⟨tokens, (CommandLine.parse text).redirection, command⟩

theorem outcome_executeWith (execute : Json → ShellM Json) (line : Json) (s : Shell) :
    outcome (executeWith execute line) s =
      match errand s.registry line with
      | .error message => outcome (complain message) s
      | .ok e => outcome (dispatch execute e.tokens e.redirection e.command) s := by
  unfold executeWith errand
  cases line.text? with
  | none => rfl
  | some text =>
    by_cases hblank : CommandLine.isBlankLine text = true
    · simp only [hblank, if_true]
    · simp only [hblank, Bool.false_eq_true, if_false]
      unfold executeText
      dsimp only
      cases Tokens.ofText (CommandLine.parse text).command with
      | error e => rfl
      | ok tokens =>
        by_cases hname : tokens.name = []
        · simp only [hname, if_true]
        · simp only [hname, if_false, outcome_bind, outcome_get]
          cases s.registry.called? tokens.name with
          | none => rfl
          | some command => rfl

/-- A line is for a command of a shell, with arguments and a redirection. -/
structure Resolves (s : Shell) (line : Json) (tokens : Tokens) (redirection : Option Redirection)
    (command : Command) : Prop where
  read : ∃ text, line.text? = some text ∧ CommandLine.isBlankLine text = false ∧
    Tokens.ofText (CommandLine.parse text).command = .ok tokens ∧
    (CommandLine.parse text).redirection = redirection
  named : tokens.name ≠ []
  known : s.registry.called? tokens.name = some command

variable {s : Shell} {line : Json}

theorem resolves_of_errand {e : Errand} (h : errand s.registry line = .ok e) :
    Resolves s line e.tokens e.redirection e.command := by
  unfold errand at h
  cases hline : line.text? with
  | none => simp [hline] at h
  | some text =>
    cases hblank : CommandLine.isBlankLine text with
    | true => simp [hline, hblank] at h
    | false =>
      cases htokens : Tokens.ofText (CommandLine.parse text).command with
      | error e => simp [hline, hblank, htokens] at h
      | ok tokens =>
        by_cases hname : tokens.name = []
        · simp [hline, hblank, htokens, hname] at h
        · cases hcommand : s.registry.called? tokens.name with
          | none => simp [hline, hblank, htokens, hname, hcommand] at h
          | some command =>
            simp only [hline, hblank, htokens, hname, hcommand, Bool.false_eq_true, if_false] at h
            obtain rfl := Except.ok.inj h
            exact ⟨⟨text, hline, hblank, htokens, rfl⟩, hname, hcommand⟩

theorem Resolves.errand_eq {tokens : Tokens} {redirection : Option Redirection}
    {command : Command} (h : Resolves s line tokens redirection command) :
    errand s.registry line = .ok ⟨tokens, redirection, command⟩ := by
  obtain ⟨text, hline, hblank, htokens, rfl⟩ := h.read
  simp [errand, hline, hblank, htokens, h.named, h.known]

theorem Resolves.outcome_eq {tokens : Tokens} {redirection : Option Redirection}
    {command : Command} (h : Resolves s line tokens redirection command)
    (execute : Json → ShellM Json) :
    outcome (executeWith execute line) s =
      outcome (dispatch execute tokens redirection command) s := by
  rw [outcome_executeWith, h.errand_eq]

theorem exists_complaint (execute : Json → ShellM Json)
    (h : ¬ ∃ tokens redirection command, Resolves s line tokens redirection command) :
    ∃ message, outcome (executeWith execute line) s = outcome (complain message) s := by
  rw [outcome_executeWith]
  cases he : errand s.registry line with
  | error message => exact ⟨message, rfl⟩
  | ok e => exact absurd ⟨_, _, _, resolves_of_errand he⟩ h

end MemoryShell.Shell
