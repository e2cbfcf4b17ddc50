import MemoryShell.Proofs.CommandLine.Grammar

/-!
The grammar of redirections. A sign redirects if what stands behind its operator is blanks and then a
target that reaches to the end of the line. The leftmost sign that does so gives the redirection of the
line, which is also the one that the pattern of such lines finds.
-/

set_option autoImplicit false

namespace MemoryShell.CommandLine

open Text

def operatorAt (s : Text) (m : Nat) : RedirectionOperator :=
  if s[m + 1]? = some sign then .append else .write

def targetAt (s : Text) (m : Nat) : Text :=
  stripLeft (s.drop (m + (operatorAt s m).symbol.length))

/-- Whether the sign at a place redirects: a target without blanks stands behind its operator, which
starts with something else than a sign. -/
structure Redirects (s : Text) (m : Nat) : Prop where
  sign : s[m]? = some sign
  nonempty : targetAt s m ≠ []
  solid : ∀ c ∈ targetAt s m, isBlank c = false
  begins : (targetAt s m).head? ≠ some CommandLine.sign

instance (s : Text) (m : Nat) : Decidable (Redirects s m) :=
  have := List.decidableBAll (fun c => isBlank c = false) (targetAt s m)
  decidable_of_iff (s[m]? = some sign ∧ targetAt s m ≠ [] ∧
      (∀ c ∈ targetAt s m, isBlank c = false) ∧ (targetAt s m).head? ≠ some sign)
    ⟨fun ⟨hsign, hne, hsolid, hbegins⟩ => ⟨hsign, hne, hsolid, hbegins⟩,
      fun ⟨hsign, hne, hsolid, hbegins⟩ => ⟨hsign, hne, hsolid, hbegins⟩⟩

theorem eq_take_append_drop {cs : Text} {m : Nat} {c : CodePoint} (h : cs[m]? = some c) :
    cs = cs.take m ++ c :: cs.drop (m + 1) := by
  obtain ⟨hlt, hc⟩ := List.getElem?_eq_some_iff.mp h
  rw [← hc, ← List.drop_eq_getElem_cons hlt, List.take_append_drop]

theorem isTarget_iff (cs : Text) :
    isTarget cs = true ↔ cs ≠ [] ∧ (∀ c ∈ cs, isBlank c = false) ∧ cs.head? ≠ some sign := by
  cases cs with
  | nil => simp [isTarget]
  | cons c cs =>
    simp only [isTarget, Bool.and_eq_true, decide_eq_true_eq, List.all_eq_true, Bool.not_eq_true',
      List.head?_cons, ne_eq, Option.some.injEq, reduceCtorEq, not_false_eq_true, true_and]
    exact and_comm

theorem operatorAt?_drop (s : Text) (m : Nat) :
    operatorAt? (s.drop m) =
      if s[m]? = some sign then
        some (operatorAt s m, s.drop (m + (operatorAt s m).symbol.length))
      else none := by
  have hsign : s[m]? = (s.drop m)[0]? := by simp
  have hnext : s[m + 1]? = (s.drop m)[1]? := by simp
  have hwrite : RedirectionOperator.write.symbol.length = 1 := rfl
  have happend : RedirectionOperator.append.symbol.length = 2 := rfl
  rw [operatorAt, hsign, hnext, ← List.drop_drop]
  rcases s.drop m with _ | ⟨c, _ | ⟨d, cs⟩⟩
  · rfl
  · by_cases hc : c = sign <;> simp [operatorAt?, hc, hwrite]
  · by_cases hc : c = sign <;> by_cases hd : d = sign <;>
      simp [operatorAt?, hc, hd, hwrite, happend]

theorem redirectionAt?_drop (s : Text) (m : Nat) :
    (Redirects s m ∧ redirectionAt? (s.drop m) = some (operatorAt s m, targetAt s m)) ∨
      (¬ Redirects s m ∧ redirectionAt? (s.drop m) = none) := by
  rw [redirectionAt?, operatorAt?_drop]
  by_cases hsign : s[m]? = some sign
  · simp only [if_pos hsign]
    by_cases htarget : isTarget (targetAt s m) = true
    · obtain ⟨hne, hsolid, hbegins⟩ := (isTarget_iff _).mp htarget
      exact .inl ⟨⟨hsign, hne, hsolid, hbegins⟩, if_pos htarget⟩
    · exact .inr ⟨fun h => htarget ((isTarget_iff _).mpr ⟨h.nonempty, h.solid, h.begins⟩),
        if_neg htarget⟩
  · exact .inr ⟨fun h => hsign h.sign, by simp [hsign]⟩

theorem operatorAt_cons (c : CodePoint) (s : Text) (m : Nat) :
    operatorAt (c :: s) (m + 1) = operatorAt s m := by
  rw [operatorAt, operatorAt, List.getElem?_cons_succ]

theorem targetAt_cons (c : CodePoint) (s : Text) (m : Nat) :
    targetAt (c :: s) (m + 1) = targetAt s m := by
  rw [targetAt, targetAt, operatorAt_cons, Nat.add_right_comm, List.drop_succ_cons]

theorem redirects_cons (c : CodePoint) (s : Text) (m : Nat) :
    Redirects (c :: s) (m + 1) ↔ Redirects s m := by
  constructor
  · rintro ⟨hsign, hne, hsolid, hbegins⟩
    rw [targetAt_cons] at hne hsolid hbegins
    exact ⟨hsign, hne, hsolid, hbegins⟩
  · rintro ⟨hsign, hne, hsolid, hbegins⟩
    rw [← targetAt_cons c] at hne hsolid hbegins
    exact ⟨hsign, hne, hsolid, hbegins⟩

theorem split?_cases (s : Text) :
    (∃ m, Redirects s m ∧ (∀ k < m, ¬ Redirects s k) ∧
        split? s = some (s.take m, operatorAt s m, targetAt s m)) ∨
      ((∀ m, ¬ Redirects s m) ∧ split? s = none) := by
  induction s with
  | nil => exact .inr ⟨fun m h => by simpa using h.sign, rfl⟩
  | cons c s ih =>
    rcases redirectionAt?_drop (c :: s) 0 with ⟨hhere, hread⟩ | ⟨hhere, hread⟩
    · rw [List.drop_zero] at hread
      exact .inl ⟨0, hhere, by simp, by simp [split?, hread]⟩
    · rw [List.drop_zero] at hread
      rcases ih with ⟨m, hm, hleast, hsplit⟩ | ⟨hnone, hsplit⟩
      · refine .inl ⟨m + 1, (redirects_cons c s m).mpr hm, fun k hk => ?_, ?_⟩
        · cases k with
          | zero => exact hhere
          | succ k => exact fun h => hleast k (by omega) ((redirects_cons c s k).mp h)
        · simp [split?, hread, hsplit, operatorAt_cons, targetAt_cons]
      · refine .inr ⟨fun m => ?_, by simp [split?, hread, hsplit]⟩
        cases m with
        | zero => exact hhere
        | succ m => exact fun h => hnone m ((redirects_cons c s m).mp h)

theorem parse_cases (text : Text) :
    (∃ m, Redirects (dropNewline text) m ∧
        (∀ k < m, ¬ Redirects (dropNewline text) k) ∧
        parse text =
          ⟨strip ((dropNewline text).take m),
            some ⟨operatorAt (dropNewline text) m,
              targetAt (dropNewline text) m⟩⟩) ∨
      ((∀ m, ¬ Redirects (dropNewline text) m) ∧ parse text = ⟨strip text, none⟩) := by
  unfold parse
  rcases split?_cases (dropNewline text) with ⟨m, hm, hleast, hsplit⟩ | ⟨hnone, hsplit⟩
  · rw [hsplit]
    exact .inl ⟨m, hm, hleast, rfl⟩
  · rw [hsplit]
    exact .inr ⟨hnone, rfl⟩

/-- The redirection of a line is what the pattern finds. It is that of the leftmost sign of the line,
taken without a final newline, behind which a target reaches to the end; the command is what stands in
front of that sign. A line without such a sign is all command. -/
theorem parse_redirects_at_leftmost_sign (text : Text) :
    parse text = Grammar.parse text ∧
      ((parse text).redirection.isSome ↔ ∃ m, Redirects (dropNewline text) m) ∧
      (∀ m, Redirects (dropNewline text) m →
        (∀ k < m, ¬ Redirects (dropNewline text) k) →
          parse text =
            ⟨strip ((dropNewline text).take m),
              some ⟨operatorAt (dropNewline text) m,
                targetAt (dropNewline text) m⟩⟩) ∧
      ((∀ m, ¬ Redirects (dropNewline text) m) → parse text = ⟨strip text, none⟩) := by
  refine ⟨parse_eq_grammar_parse text, ?_⟩
  rcases parse_cases text with ⟨m, hm, hleast, hparse⟩ | ⟨hnone, hparse⟩
  · rw [hparse]
    refine ⟨iff_of_true rfl ⟨m, hm⟩, fun k hk hfirst => ?_, fun hnone => absurd hm (hnone m)⟩
    obtain rfl : k = m := by
      rcases Nat.lt_trichotomy k m with h | h | h
      · exact absurd hk (hleast k h)
      · exact h
      · exact absurd hm (hfirst m h)
    rfl
  · rw [hparse]
    refine ⟨iff_of_false (by simp) fun ⟨m, hm⟩ => hnone m hm, fun m hm => absurd hm (hnone m), ?_⟩
    exact fun _ => rfl

/-- Of three signs in a row the first does not redirect, for its target would start with a sign. -/
theorem parse_redirects_at_leftmost_sign_of_three :
    Redirects (dropNewline "x>>>y\n") 2 ∧
      (∀ k < 2, ¬ Redirects (dropNewline "x>>>y\n") k) ∧
      parse "x>>>y\n" = ⟨"x>", some ⟨.append, "y"⟩⟩ := by
  obtain ⟨-, -, hleftmost, -⟩ := parse_redirects_at_leftmost_sign "x>>>y\n"
  have hsign : Redirects (dropNewline "x>>>y\n") 2 := by decide +kernel
  have hleast : ∀ k < 2, ¬ Redirects (dropNewline "x>>>y\n") k := by decide +kernel
  refine ⟨hsign, hleast, (hleftmost 2 hsign hleast).trans ?_⟩
  decide +kernel

end MemoryShell.CommandLine
