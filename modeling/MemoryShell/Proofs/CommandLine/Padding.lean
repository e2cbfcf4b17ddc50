import Mathlib.Data.List.Basic
import MemoryShell.Proofs.CommandLine.Redirection

set_option autoImplicit false

namespace MemoryShell.CommandLine

open Text

variable {cs bs : Text} {c : CodePoint}

/-- Behind a line, blanks run over its end unless they are the one newline that is dropped. -/
def Overruns (line blanks : Text) : Prop :=
  blanks ≠ [] ∧ (blanks = [newline] → line.getLast? = some newline)

instance (line blanks : Text) : Decidable (Overruns line blanks) :=
  inferInstanceAs (Decidable (_ ∧ _))

theorem split?_cons_of_blank (h : isBlank c = true) (cs : Text) :
    split? (c :: cs) = (split? cs).map fun r => (c :: r.1, r.2) := by
  have hsign : c ≠ sign := ne_of_blank h isBlank_sign
  have hhere : redirectionAt? (c :: cs) = none := by simp [redirectionAt?, operatorAt?, hsign]
  simp [split?, hhere]

theorem split?_blank_append (h : ∀ c ∈ bs, isBlank c = true) (cs : Text) :
    split? (bs ++ cs) = (split? cs).map fun r => (bs ++ r.1, r.2) := by
  induction bs with
  | nil => simp
  | cons b bs ih =>
    obtain ⟨hb, hbs⟩ := List.forall_mem_cons.mp h
    rw [List.cons_append, split?_cons_of_blank hb, ih hbs, Option.map_map]
    rfl

theorem targetAt_isSuffix (s : Text) (m : Nat) : targetAt s m <:+ s :=
  (List.dropWhile_suffix _).trans (List.drop_suffix _ s)

theorem split?_eq_none_of_blank (hlast : cs.getLast? = some c) (h : isBlank c = true) :
    split? cs = none := by
  rcases split?_cases cs with ⟨m, hm, -, -⟩ | ⟨-, hnone⟩
  · have hend : (targetAt cs m).getLast? = some c := by
      obtain ⟨front, hfront⟩ := targetAt_isSuffix cs m
      have hsame := List.getLast?_append_of_ne_nil front hm.nonempty
      rw [hfront, hlast] at hsame
      exact hsame.symm
    have hsolid := hm.solid c (List.mem_of_getLast? hend)
    rw [h] at hsolid
    cases hsolid
  · exact hnone

theorem dropNewline_append (bs : Text) (h : cs ≠ []) :
    dropNewline (bs ++ cs) = bs ++ dropNewline cs := by
  unfold dropNewline
  rw [List.getLast?_append_of_ne_nil _ h, List.dropLast_append_of_ne_nil h]
  split <;> rfl

theorem dropNewline_eq_nil_iff (cs : Text) : dropNewline cs = [] ↔ cs = [] ∨ cs = [newline] := by
  cases cs with
  | nil => simp [dropNewline]
  | cons c cs =>
    rw [dropNewline_cons]
    by_cases hcs : cs = []
    · by_cases hc : c = newline <;> simp [hcs, hc]
    · simp [hcs]

theorem parse_blank_append (h : ∀ c ∈ bs, isBlank c = true) (cs : Text) :
    parse (bs ++ cs) = parse cs := by
  have hstrip : ∀ ds, strip (bs ++ ds) = strip ds := fun ds => by
    rw [strip, stripLeft_blank_append h, strip]
  have hsplit : split? (dropNewline (bs ++ cs)) =
      (split? (dropNewline cs)).map fun r => (bs ++ r.1, r.2) := by
    by_cases hcs : cs = []
    · have hblank : ∀ c ∈ dropNewline bs, isBlank c = true :=
        fun c hc => h c ((dropNewline_isPrefix bs).subset hc)
      have hnone := split?_blank_append hblank []
      rw [List.append_nil] at hnone
      rw [hcs, List.append_nil, hnone]
      rfl
    · rw [dropNewline_append bs hcs, split?_blank_append h]
  unfold parse
  rw [hsplit, hstrip]
  cases split? (dropNewline cs) with
  | none => rfl
  | some r => simp only [Option.map_some, hstrip]

theorem parse_append_of_overruns (h : ∀ c ∈ bs, isBlank c = true) (hover : Overruns cs bs) :
    parse (cs ++ bs) = ⟨strip cs, none⟩ := by
  obtain ⟨hne, hnewline⟩ := hover
  have hlast : ∃ c, (dropNewline (cs ++ bs)).getLast? = some c ∧ isBlank c = true := by
    rw [dropNewline_append cs hne]
    by_cases hbs : bs = [newline]
    · rw [hbs]
      exact ⟨newline, by simpa [dropNewline] using hnewline hbs, isBlank_newline⟩
    · have hstays : dropNewline bs ≠ [] := by
        rw [ne_eq, dropNewline_eq_nil_iff]
        exact not_or.mpr ⟨hne, hbs⟩
      rw [List.getLast?_append_of_ne_nil _ hstays, List.getLast?_eq_getLast_of_ne_nil hstays]
      exact ⟨_, rfl, h _ ((dropNewline_isPrefix bs).subset (List.getLast_mem hstays))⟩
  obtain ⟨c, hc, hblank⟩ := hlast
  unfold parse
  rw [split?_eq_none_of_blank hc hblank, strip_append_blank h cs]

theorem parse_append_of_not_overruns (hover : ¬ Overruns cs bs) : parse (cs ++ bs) = parse cs := by
  by_cases hne : bs = []
  · rw [hne, List.append_nil]
  · obtain ⟨hbs, hlast⟩ : bs = [newline] ∧ cs.getLast? ≠ some newline := by
      simpa [Overruns, hne] using hover
    have hdrop : dropNewline (cs ++ [newline]) = dropNewline cs := by
      rw [dropNewline_append cs (by decide), dropNewline, dropNewline, if_neg hlast]
      exact List.append_nil cs
    have hblank : ∀ c ∈ [newline], isBlank c = true := by simp [isBlank_newline]
    unfold parse
    rw [hbs, hdrop, strip_append_blank hblank]

variable {u line v : Text}

theorem isBlankLine_iff (line : Text) :
    isBlankLine line = true ↔ ∀ c ∈ line, isBlank c = true :=
  List.all_eq_true

theorem isBlankLine_padded (hu : isBlankLine u = true) (hv : isBlankLine v = true) (line : Text) :
    isBlankLine (u ++ line ++ v) = isBlankLine line := by
  unfold isBlankLine at *
  rw [List.all_append, List.all_append, hu, hv, Bool.true_and, Bool.and_true]

theorem parse_padded_of_not_overruns (hu : isBlankLine u = true) (hover : ¬ Overruns line v) :
    parse (u ++ line ++ v) = parse line := by
  rw [List.append_assoc, parse_blank_append ((isBlankLine_iff u).mp hu),
    parse_append_of_not_overruns hover]

theorem parse_padded_of_overruns (hu : isBlankLine u = true) (hv : isBlankLine v = true)
    (hover : Overruns line v) : parse (u ++ line ++ v) = ⟨strip line, none⟩ := by
  rw [List.append_assoc, parse_blank_append ((isBlankLine_iff u).mp hu),
    parse_append_of_overruns ((isBlankLine_iff v).mp hv) hover]

theorem parse_of_redirection_eq_none (h : (parse line).redirection = none) :
    parse line = ⟨strip line, none⟩ := by
  rcases parse_cases line with ⟨m, -, -, hparse⟩ | ⟨-, hparse⟩
  · rw [hparse] at h
    cases h
  · exact hparse

theorem parse_padded_iff (hu : isBlankLine u = true) (hv : isBlankLine v = true) (line : Text) :
    parse (u ++ line ++ v) = parse line ↔
      ((parse line).redirection = none ∨ ¬ Overruns line v) := by
  by_cases hover : Overruns line v
  · rw [parse_padded_of_overruns hu hv hover]
    simp only [hover, not_true_eq_false, or_false]
    exact ⟨fun h => h ▸ rfl, fun h => (parse_of_redirection_eq_none h).symm⟩
  · exact iff_of_true (parse_padded_of_not_overruns hu hover) (.inr hover)

end MemoryShell.CommandLine
