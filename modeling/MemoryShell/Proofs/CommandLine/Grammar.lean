import MemoryShell.CommandLine.Redirection
import MemoryShell.Proofs.Text.Pattern
import MemoryShell.Proofs.Text.Strip

set_option autoImplicit false

namespace MemoryShell.CommandLine

open Text

theorem dropNewline_cons (c : CodePoint) (cs : Text) :
    dropNewline (c :: cs) =
      if cs = [] then (if c = newline then [] else [c]) else c :: dropNewline cs := by
  cases cs with
  | nil => by_cases hc : c = newline <;> simp [dropNewline, hc]
  | cons d ds =>
    simp only [dropNewline, List.getLast?_cons_cons]
    split <;> simp_all

theorem dropNewline_cons_cases (c : CodePoint) (cs : Text) :
    dropNewline (c :: cs) = [] ∨ ∃ ds, dropNewline (c :: cs) = c :: ds := by
  rw [dropNewline_cons]
  split_ifs
  · exact .inl rfl
  · exact .inr ⟨[], rfl⟩
  · exact .inr ⟨dropNewline cs, rfl⟩

theorem dropNewline_cons_of_ne {c : CodePoint} (h : c ≠ newline) (cs : Text) :
    dropNewline (c :: cs) = c :: dropNewline cs := by
  rw [dropNewline_cons]
  split
  · rename_i hcs
    rw [hcs]
    rfl
  · rfl

theorem dropNewline_isPrefix (cs : Text) : dropNewline cs <+: cs := by
  unfold dropNewline
  split
  · exact List.dropLast_prefix cs
  · exact List.prefix_refl cs

theorem isBlank_newline : isBlank newline = true := by decide

theorem isBlank_sign : isBlank sign = false := by decide

theorem ne_newline_of_not_blank {c : CodePoint} (h : isBlank c = false) : c ≠ newline :=
  (ne_of_blank isBlank_newline h).symm

theorem stripLeft_dropNewline (cs : Text) :
    stripLeft (dropNewline cs) = dropNewline (stripLeft cs) := by
  induction cs with
  | nil => rfl
  | cons c cs ih =>
    cases hc : isBlank c with
    | true =>
      rw [stripLeft_cons_of_blank hc, ← ih, dropNewline_cons]
      split
      · rename_i hcs
        rw [hcs]
        split
        · rfl
        · exact stripLeft_cons_of_blank hc []
      · exact stripLeft_cons_of_blank hc _
    | false =>
      rw [stripLeft_cons_of_not_blank hc, dropNewline_cons_of_ne (ne_newline_of_not_blank hc),
        stripLeft_cons_of_not_blank hc]

namespace Grammar

def target : Pattern :=
  .next (.group (.next (.one fun c => !isBlank c && c ≠ CommandLine.sign) (.run fun c => !isBlank c))) .ending

def sign : Pattern :=
  .one fun c => c = CommandLine.sign

def operator : Pattern :=
  .group (.either (.next sign sign) sign)

def operation : Pattern :=
  .next operator (.next (.run isBlank) target)

def line : Pattern :=
  .next (.group (.reluctant fun _ => true)) (.next (.run isBlank) operation)

end Grammar

open Pattern

theorem filter_rests_reverse (cs : Text) :
    ((rests (fun c => !isBlank c) cs).reverse.filter fun r => r = [] ∨ r = [newline]) =
      if (dropNewline cs).all fun c => !isBlank c then [cs.drop (dropNewline cs).length] else [] := by
  induction cs with
  | nil => simp [rests, dropNewline]
  | cons c cs ih =>
    cases hc : isBlank c with
    | false =>
      have hne := ne_newline_of_not_blank hc
      simp only [rests, hc, Bool.not_false, if_true, List.reverse_cons, List.filter_append, ih,
        dropNewline_cons_of_ne hne, List.all_cons, Bool.true_and, List.length_cons,
        List.drop_succ_cons]
      simp [hne]
    | true =>
      rw [dropNewline_cons]
      have hrests : rests (fun c => !isBlank c) (c :: cs) = [c :: cs] := by simp [rests, hc]
      rw [hrests]
      by_cases hcs : cs = []
      · by_cases hne : c = newline <;> simp [hcs, hne, hc]
      · simp [hcs, hc]

theorem isTarget_dropNewline_of_blank {c : CodePoint} (h : isBlank c = true) (cs : Text) :
    isTarget (dropNewline (c :: cs)) = false := by
  rcases dropNewline_cons_cases c cs with hdrop | ⟨ds, hdrop⟩ <;> simp [hdrop, isTarget, h]

theorem ways_target (cs : Text) :
    (Grammar.target.ways cs).map Way.groups =
      if isTarget (dropNewline cs) then [[dropNewline cs]] else [] := by
  rw [Grammar.target, ways_next_ending, ways]
  cases cs with
  | nil => rfl
  | cons c cs =>
    rw [ways_one_next_cons]
    cases hblank : isBlank c with
    | true =>
      simp [isTarget_dropNewline_of_blank hblank]
    | false =>
      rw [dropNewline_cons_of_ne (ne_newline_of_not_blank hblank)]
      by_cases hsign : c = sign
      · simp [isTarget, hsign]
      · have htake : (c :: cs).take ((c :: cs).length - (cs.length - (dropNewline cs).length)) =
            c :: dropNewline cs := by
          have hlength := (dropNewline_isPrefix cs).length_le
          rw [List.length_cons, show cs.length + 1 - (cs.length - (dropNewline cs).length) =
            (dropNewline cs).length + 1 by omega, List.take_succ_cons,
            ← List.prefix_iff_eq_take.mp (dropNewline_isPrefix cs)]
        have htarget : isTarget (c :: dropNewline cs) =
            (dropNewline cs).all fun c => !isBlank c := by simp [isTarget, hblank, hsign]
        rw [if_pos (by simp [hsign]), ways, List.map_map, List.filter_map, List.map_map]
        simp only [Function.comp_def, filter_rests_reverse, htarget]
        split
        · simpa using htake
        · rfl

theorem ways_operator (cs : Text) :
    Grammar.operator.ways cs =
      match cs with
      | [] => []
      | c :: cs =>
        if c ≠ sign then []
        else if cs.head? = some sign then [⟨[[sign, sign]], cs.tail⟩, ⟨[[sign]], cs⟩]
        else [⟨[[sign]], cs⟩] := by
  unfold Grammar.operator Grammar.sign
  rcases cs with _ | ⟨c, _ | ⟨d, cs⟩⟩
  · rfl
  · by_cases hc : c = sign
    · subst hc
      rfl
    · simp [ways, hc]
  · by_cases hc : c = sign
    · subst hc
      by_cases hd : d = sign
      · subst hd
        simp [ways, show cs.length + 1 + 1 - cs.length = 2 by omega]
      · simp [ways, hd]
    · simp [ways, hc]

theorem ways_blanks_target (cs : Text) :
    ((Pattern.next (.run isBlank) Grammar.target).ways cs).map Way.groups =
      if isTarget (stripLeft (dropNewline cs)) then [[stripLeft (dropNewline cs)]] else [] := by
  have hblank : ∀ c cs, isBlank c = true → Grammar.target.ways (c :: cs) = [] := by
    intro c cs hc
    refine List.map_eq_nil_iff.mp ((ways_target _).trans (if_neg ?_))
    rw [isTarget_dropNewline_of_blank hc]
    exact Bool.false_ne_true
  rw [ways_run_next, flatMap_rests_reverse hblank, stripLeft_dropNewline]
  exact ways_target _

theorem operatorAt?_dropNewline_of_ne {c : CodePoint} (h : c ≠ sign) (cs : Text) :
    operatorAt? (dropNewline (c :: cs)) = none := by
  rcases dropNewline_cons_cases c cs with hdrop | ⟨ds, hdrop⟩ <;> simp [hdrop, operatorAt?, h]

theorem ways_operation (cs : Text) :
    (Grammar.operation.ways cs).map Way.groups =
      match redirectionAt? (dropNewline cs) with
      | some (op, target) => [[Text.ofString op.symbol, target]]
      | none => [] := by
  have hsign : sign ≠ newline := by decide
  have hleft : ∀ ds, isTarget (stripLeft (sign :: ds)) = false := by
    intro ds
    rw [stripLeft_cons_of_not_blank isBlank_sign]
    simp [isTarget]
  rw [Grammar.operation, groups_ways_next, ways_operator]
  simp only [ways_blanks_target]
  rcases cs with _ | ⟨c, cs⟩
  · rfl
  by_cases hc : c = sign
  · subst hc
    rw [dropNewline_cons_of_ne hsign]
    rcases cs with _ | ⟨d, cs⟩
    · rfl
    by_cases hd : d = sign
    · subst hd
      rw [dropNewline_cons_of_ne hsign]
      by_cases ht : isTarget (stripLeft (dropNewline cs)) = true
      · simp [redirectionAt?, operatorAt?, dropNewline_cons_of_ne hsign, ht, hleft]
        rfl
      · simp [redirectionAt?, operatorAt?, dropNewline_cons_of_ne hsign, ht, hleft]
    · have hoperator : operatorAt? (sign :: dropNewline (d :: cs)) =
          some (.write, dropNewline (d :: cs)) := by
        rcases dropNewline_cons_cases d cs with hdrop | ⟨ds, hdrop⟩ <;>
          simp [hdrop, operatorAt?, hd]
      by_cases ht : isTarget (stripLeft (dropNewline (d :: cs))) = true
      · simp [redirectionAt?, hoperator, ht, hd]
        rfl
      · simp [redirectionAt?, hoperator, ht, hd]
  · simp [redirectionAt?, operatorAt?_dropNewline_of_ne hc, hc]

theorem ne_sign_of_blank {c : CodePoint} (h : isBlank c = true) : c ≠ sign :=
  ne_of_blank h isBlank_sign

theorem ways_blanks_operation (cs : Text) :
    ((Pattern.next (.run isBlank) Grammar.operation).ways cs).map Way.groups =
      match redirectionAt? (stripLeft (dropNewline cs)) with
      | some (op, target) => [[Text.ofString op.symbol, target]]
      | none => [] := by
  have hblank : ∀ c cs, isBlank c = true → Grammar.operation.ways (c :: cs) = [] := by
    intro c cs hc
    refine List.map_eq_nil_iff.mp ((ways_operation _).trans ?_)
    simp [redirectionAt?, operatorAt?_dropNewline_of_ne (ne_sign_of_blank hc)]
  rw [ways_run_next, flatMap_rests_reverse hblank, stripLeft_dropNewline]
  exact ways_operation _

theorem split?_of_stripLeft {s : Text} {r : RedirectionOperator × Text}
    (h : redirectionAt? (stripLeft s) = some r) :
    ∃ bs, (∀ c ∈ bs, isBlank c = true) ∧ split? s = some (bs, r) := by
  induction s with
  | nil => cases h
  | cons c s ih =>
    cases hc : isBlank c with
    | true =>
      rw [stripLeft_cons_of_blank hc] at h
      obtain ⟨bs, hbs, hsplit⟩ := ih h
      refine ⟨c :: bs, List.forall_mem_cons.mpr ⟨hc, hbs⟩, ?_⟩
      have hhere : redirectionAt? (c :: s) = none := by
        simp [redirectionAt?, operatorAt?, ne_sign_of_blank hc]
      simp [split?, hhere, hsplit]
    | false =>
      rw [stripLeft_cons_of_not_blank hc] at h
      exact ⟨[], by simp, by simp [split?, h]⟩

theorem redirectionAt?_eq_none_of_stripLeft {s : Text}
    (h : redirectionAt? (stripLeft s) = none) : redirectionAt? s = none := by
  cases s with
  | nil => rfl
  | cons c s =>
    cases hc : isBlank c with
    | true => simp [redirectionAt?, operatorAt?, ne_sign_of_blank hc]
    | false => rwa [stripLeft_cons_of_not_blank hc] at h

/-- A match for a line gives the redirection that a split gives, and a command that differs from that
of the split by blanks behind it. -/
def Found (before : Text) (groups : Option (List Text)) :
    Option (Text × RedirectionOperator × Text) → Prop
  | none => groups = none
  | some (command, op, target) =>
    ∃ taken, groups = some [taken, Text.ofString op.symbol, target] ∧
      strip taken = strip (before ++ command)

theorem split?_dropNewline_cons {c : CodePoint} {cs : Text}
    (h : redirectionAt? (dropNewline (c :: cs)) = none) :
    split? (dropNewline (c :: cs)) = (split? (dropNewline cs)).map fun r => (c :: r.1, r.2) := by
  rw [dropNewline_cons] at h ⊢
  split
  · rename_i hcs
    subst hcs
    split
    · rfl
    · rename_i hc
      rw [if_pos rfl, if_neg hc] at h
      simp [split?, h, dropNewline]
  · rename_i hcs
    rw [if_neg hcs] at h
    simp [split?, h]

theorem Found.cons {before : Text} {c : CodePoint} {groups : Option (List Text)}
    {found : Option (Text × RedirectionOperator × Text)}
    (h : Found (before ++ [c]) groups found) :
    Found before groups (found.map fun r => (c :: r.1, r.2)) := by
  cases found with
  | none => exact h
  | some r =>
    obtain ⟨taken, hgroups, hstrip⟩ := h
    exact ⟨taken, hgroups, by rw [hstrip, ← List.append_cons]⟩

theorem found_split? (before cs : Text) :
    Found before
      (((rests (fun _ => true) cs).flatMap fun rest =>
        ((Pattern.next (.run isBlank) Grammar.operation).ways rest).map
          (Way.behind ((before ++ cs).take ((before ++ cs).length - rest.length)))).head?.map
        Way.groups)
      (split? (dropNewline cs)) := by
  -- the characters that the reluctant run has taken grow in front
  induction cs generalizing before with
  | nil => rfl
  | cons c cs ih =>
    have hways := ways_blanks_operation (c :: cs)
    have hnext := ih (before ++ [c])
    rw [← List.append_cons] at hnext
    rw [rests, if_pos rfl, List.flatMap_cons]
    cases hread : redirectionAt? (stripLeft (dropNewline (c :: cs))) with
    | none =>
      rw [hread] at hways
      rw [List.map_eq_nil_iff.mp hways, List.map_nil, List.nil_append,
        split?_dropNewline_cons (redirectionAt?_eq_none_of_stripLeft hread)]
      exact hnext.cons
    | some r =>
      obtain ⟨op, target⟩ := r
      obtain ⟨bs, hbs, hsplit⟩ := split?_of_stripLeft hread
      rw [hread] at hways
      obtain ⟨w, hw, hgroups⟩ := List.map_eq_singleton_iff.mp hways
      rw [hw, hsplit]
      refine ⟨before, ?_, (strip_append_blank hbs before).symm⟩
      simp [hgroups, Way.behind]

theorem found_line (cs : Text) :
    Found [] (Grammar.line.match? cs) (split? (dropNewline cs)) := by
  rw [match?, Grammar.line, ways_reluctant_group_next]
  exact found_split? [] cs

/-- What a line says according to the pattern: a redirection if it matches, and the command without
blanks around it. -/
def Grammar.parse (text : Text) : CommandLine :=
  match Grammar.line.match? text with
  | some [command, operator, target] =>
    ⟨strip command, (RedirectionOperator.ofSymbol? operator).map fun op => ⟨op, target⟩⟩
  | _ => ⟨strip text, none⟩

theorem parse_eq_grammar_parse (text : Text) : parse text = Grammar.parse text := by
  have hfound := found_line text
  have hsymbol : ∀ op : RedirectionOperator,
      RedirectionOperator.ofSymbol? (Text.ofString op.symbol) = some op := by
    intro op
    cases op <;> rfl
  unfold parse Grammar.parse
  rcases hsplit : split? (dropNewline text) with _ | ⟨command, op, target⟩
  · rw [hsplit] at hfound
    rw [show Grammar.line.match? text = none from hfound]
  · rw [hsplit] at hfound
    obtain ⟨taken, hgroups, hstrip⟩ := hfound
    rw [hgroups]
    simp only [hsymbol, hstrip, List.nil_append, Option.map_some]

end MemoryShell.CommandLine
