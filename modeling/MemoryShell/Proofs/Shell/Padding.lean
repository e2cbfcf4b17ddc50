import MemoryShell.Proofs.CommandLine.Padding
import MemoryShell.Proofs.Shell.Diversion

/-!
What blanks around a line come to when it is executed. As long as they do not undo a redirection, the
same is done with them as without. Where they undo one, the operator and the target go to the command
as two more arguments, what it puts out is said, and no target is written.
-/

set_option autoImplicit false

namespace MemoryShell.Shell

open CommandLine Text

variable {s : Shell}

theorem volume_dispatch_none (execute : Json → ShellM Json) (tokens : Tokens) (command : Command)
    (s : Shell) :
    (outcome (dispatch execute tokens none command) s).2.volume =
      (outcome (runStages execute tokens command) s).2.volume := by
  unfold dispatch
  rw [outcome_bind, outcome_attempt]
  rcases outcome (runStages execute tokens command) s with ⟨f | output | ⟨kind, message⟩, t⟩
  · exact volume_emit _ _ t
  · exact volume_emit _ _ t
  · exact volume_emit _ _ t

theorem executeWithin_congr {first second : Text} (hparse : parse first = parse second)
    (hblank : isBlankLine first = isBlankLine second) (depth : Nat) :
    executeWithin depth (.string first) = executeWithin depth (.string second) := by
  cases depth with
  | zero => rfl
  | succ depth =>
    simp only [executeWithin, executeWith, Json.text?, hblank, executeText, hparse]

/-- Blanks around a line change how it is parsed if and only if it has a redirection and those behind
it run over its end; those in front do not matter. If they change nothing there, then the line is
executed alike with them and without, nested to any depth. Otherwise the line has no redirection any
more: all of it is read as a command and its arguments, and what this leaves of the volume is left when
its output has been said. -/
theorem blanks_behind_undo_redirection {u v : Text} (line : Text) (hu : isBlankLine u = true)
    (hv : isBlankLine v = true) :
    (parse (u ++ line ++ v) = parse line ↔
      ((parse line).redirection = none ∨ ¬ Overruns line v)) ∧
    (parse (u ++ line ++ v) = parse line → ∀ depth,
      executeWithin depth (.string (u ++ line ++ v)) = executeWithin depth (.string line)) ∧
    (parse (u ++ line ++ v) ≠ parse line →
      parse (u ++ line ++ v) = ⟨strip line, none⟩ ∧
      ∀ {s : Shell} {tokens : Tokens} {redirection : Option Redirection} {command : Command},
        Resolves s (.string (u ++ line ++ v)) tokens redirection command →
          Tokens.ofText (strip line) = .ok tokens ∧ redirection = none ∧
          ∀ depth, (outcome (executeWithin (depth + 1) (.string (u ++ line ++ v))) s).2.volume =
            (outcome (runStages (executeWithin depth) tokens command) s).2.volume) := by
  have hiff := parse_padded_iff hu hv line
  refine ⟨hiff, fun hsame => executeWithin_congr hsame (isBlankLine_padded hu hv line),
    fun hdiffers => ?_⟩
  have hover : Overruns line v := by
    by_contra hstays
    exact hdiffers (hiff.mpr (.inr hstays))
  have hparse := parse_padded_of_overruns hu hv hover
  refine ⟨hparse, ?_⟩
  intro s tokens redirection command hline
  obtain ⟨text, htext, -, htokens, hredirection⟩ := hline.read
  obtain rfl : u ++ line ++ v = text := Option.some.inj htext
  rw [hparse] at htokens hredirection
  subst hredirection
  refine ⟨htokens, rfl, fun depth => ?_⟩
  rw [← volume_dispatch_none, ← hline.outcome_eq]
  rfl

/-- A blank at the end of a line makes its operator and target be echoed. -/
theorem blanks_behind_undo_redirection_echo :
    isBlankLine "" = true ∧ isBlankLine " " = true ∧
      parse "echo hi > f" = ⟨"echo hi", some ⟨.write, "f"⟩⟩ ∧
      parse "echo hi > f " = ⟨"echo hi > f", none⟩ ∧
      Tokens.ofText "echo hi > f" = .ok ⟨"echo", ["hi", ">", "f"]⟩ := by
  have hfront : isBlankLine "" = true := by decide
  have hbehind : isBlankLine " " = true := by decide +kernel
  obtain ⟨hiff, -, hundone⟩ := blanks_behind_undo_redirection "echo hi > f" hfront hbehind
  have hparse : parse "echo hi > f" = ⟨"echo hi", some ⟨.write, "f"⟩⟩ := by decide +kernel
  have hover : Overruns "echo hi > f" " " := by decide +kernel
  have hstrip : strip "echo hi > f" = "echo hi > f" := by decide +kernel
  have hchanged : parse ("" ++ "echo hi > f" ++ " ") ≠ parse "echo hi > f" := by
    rw [ne_eq, hiff, hparse, not_or]
    exact ⟨Option.some_ne_none _, not_not_intro hover⟩
  obtain ⟨hpadded, -⟩ := hundone hchanged
  rw [hstrip] at hpadded
  exact ⟨hfront, hbehind, hparse, hpadded, by decide +kernel⟩

end MemoryShell.Shell
