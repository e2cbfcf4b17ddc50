import Mathlib.Data.List.DropRight
import MemoryShell.Proofs.CommandLine.Quoting
import MemoryShell.Proofs.CommandLine.Redirection

set_option autoImplicit false

namespace MemoryShell.CommandLine

open Text Token

/-- No blank stands behind something else than a blank. -/
def Solid (cs : Text) : Prop :=
  ∀ c ∈ stripLeft cs, isBlank c = false

def behindLastSign (cs : Text) : Text :=
  cs.rtakeWhile (· ≠ sign)

/-- The last sign of a text has no blank behind it but at once. -/
def Exposed (cs : Text) : Prop :=
  sign ∈ cs ∧ Solid (behindLastSign cs)

instance (cs : Text) : Decidable (Solid cs) :=
  List.decidableBAll _ (stripLeft cs)

instance (cs : Text) : Decidable (Exposed cs) :=
  inferInstanceAs (Decidable (_ ∧ _))

variable {cs front back w : Text}

theorem behindLastSign_append (h : sign ∉ back) (front : Text) :
    behindLastSign (front ++ sign :: back) = back := by
  have hback : ∀ c ∈ back.reverse, decide (c ≠ sign) = true := fun c hc =>
    decide_eq_true fun heq => h (heq ▸ List.mem_reverse.mp hc)
  rw [behindLastSign, List.rtakeWhile, List.reverse_append, List.reverse_cons, List.append_assoc,
    List.takeWhile_append_of_pos hback]
  simp

theorem exists_last_sign (h : sign ∈ cs) : ∃ front back, cs = front ++ sign :: back ∧ sign ∉ back := by
  induction cs with
  | nil => cases h
  | cons c cs ih =>
    by_cases hcs : sign ∈ cs
    · obtain ⟨front, back, rfl, hback⟩ := ih hcs
      exact ⟨c :: front, back, rfl, hback⟩
    · have hc : c = sign := by simpa [hcs, eq_comm] using h
      exact ⟨[], cs, by rw [hc]; rfl, hcs⟩

theorem exposed_append_iff (h : sign ∉ back) (front : Text) :
    Exposed (front ++ sign :: back) ↔ Solid back := by
  rw [Exposed, behindLastSign_append h]
  exact and_iff_right (List.mem_append_right front List.mem_cons_self)

theorem not_exposed_of_not_mem (h : sign ∉ cs) : ¬ Exposed cs :=
  fun hcs => h hcs.1

theorem solid_cons_of_blank {c : CodePoint} (h : isBlank c = true) (cs : Text) :
    Solid (c :: cs) ↔ Solid cs := by
  rw [Solid, stripLeft_cons_of_blank h, Solid]

theorem solid_cons_of_not_blank {c : CodePoint} (h : isBlank c = false) (cs : Text) :
    Solid (c :: cs) ↔ ∀ d ∈ cs, isBlank d = false := by
  rw [Solid, stripLeft_cons_of_not_blank h]
  simp [h]

theorem solid_of_not_blank (h : ∀ c ∈ cs, isBlank c = false) : Solid cs :=
  fun c hc => h c (mem_of_mem_stripLeft hc)

theorem Solid.of_append (h : Solid (front ++ back)) : Solid back := by
  induction front with
  | nil => exact h
  | cons c front ih =>
    rw [List.cons_append] at h
    cases hc : isBlank c with
    | true => exact ih ((solid_cons_of_blank hc _).mp h)
    | false =>
      have hrest := (solid_cons_of_not_blank hc _).mp h
      exact solid_of_not_blank fun d hd => hrest d (List.mem_append_right front hd)

theorem not_solid_of_blank_inside {c d : CodePoint} (hc : isBlank c = false) (hd : isBlank d = true)
    (front back : Text) : ¬ Solid (front ++ c :: d :: back) := by
  intro h
  have hrest := (solid_cons_of_not_blank hc _).mp h.of_append
  rw [hrest d List.mem_cons_self] at hd
  cases hd

theorem exposed_of_solid (h : Solid back) (front : Text) : Exposed (front ++ sign :: back) := by
  by_cases hback : sign ∈ back
  · obtain ⟨mid, rest, rfl, hrest⟩ := exists_last_sign hback
    have hsolid : ∀ c ∈ rest, isBlank c = false :=
      (solid_cons_of_not_blank isBlank_sign rest).mp h.of_append
    have hsplit : front ++ sign :: (mid ++ sign :: rest) = (front ++ sign :: mid) ++ sign :: rest := by
      simp
    rw [hsplit, exposed_append_iff hrest]
    exact solid_of_not_blank hsolid
  · exact (exposed_append_iff hback front).mpr h

theorem exists_eq_append_operator {m : Nat} (h : cs[m]? = some sign) :
    ∃ front, cs = front ++ sign :: cs.drop (m + (operatorAt cs m).symbol.length) := by
  unfold operatorAt
  split
  · rename_i hnext
    exact ⟨_, eq_take_append_drop hnext⟩
  · exact ⟨_, eq_take_append_drop h⟩

theorem exists_redirects_iff {last : CodePoint} (hblank : isBlank last = false) (hsign : last ≠ sign)
    (hend : cs.getLast? = some last) : (∃ m, Redirects cs m) ↔ Exposed cs := by
  constructor
  · rintro ⟨m, hm⟩
    obtain ⟨front, hfront⟩ := exists_eq_append_operator hm.sign
    rw [hfront]
    exact exposed_of_solid hm.solid front
  · intro h
    obtain ⟨front, back, rfl, hback⟩ := exists_last_sign h.1
    have hsolid : Solid back := (exposed_append_iff hback front).mp h
    have hlast : last ∈ back := by
      cases back with
      | nil => exact absurd (by simpa using hend.symm) hsign
      | cons c back =>
        rw [List.getLast?_append_cons, List.getLast?_cons_cons] at hend
        exact List.mem_of_getLast? hend
    have hdrop : (front ++ sign :: back).drop (front.length + 1) = back := by
      rw [← List.drop_drop, List.drop_left, List.drop_succ_cons, List.drop_zero]
    have hoperator : operatorAt (front ++ sign :: back) front.length = .write := by
      refine if_neg fun hnext => hback ?_
      have hhead : back[0]? = some sign := by rw [← hdrop, List.getElem?_drop]; exact hnext
      exact List.mem_of_getElem? hhead
    have htarget : targetAt (front ++ sign :: back) front.length = stripLeft back := by
      rw [targetAt, hoperator]
      exact congrArg stripLeft hdrop
    refine ⟨front.length, by simp, ?_, ?_, ?_⟩ <;> rw [htarget]
    · intro hempty
      have hall := stripLeft_eq_nil_iff.mp hempty last hlast
      rw [hblank] at hall
      cases hall
    · exact hsolid
    · exact fun hhead => hback (mem_of_mem_stripLeft (List.mem_of_mem_head? hhead))

/-! ### Lines of quoted words -/

theorem not_mem_flatMap_quoteChar (h : sign ∉ w) : sign ∉ w.flatMap quoteChar := by
  intro hmem
  obtain ⟨c, hc, hquote⟩ := List.mem_flatMap.mp hmem
  unfold quoteChar at hquote
  split at hquote
  · simp at hquote
  · rw [List.mem_singleton] at hquote
    exact h (hquote ▸ hc)

theorem isBlank_quote : isBlank single = false := by decide

theorem mem_quoteChar (c : CodePoint) : c ∈ quoteChar c := by
  by_cases hc : c = single
  · subst hc
    decide
  · rw [quoteChar_of_ne hc]
    exact List.mem_singleton_self c

theorem not_blank_quoteChar {c : CodePoint} (h : isBlank c = false) :
    ∀ d ∈ quoteChar c, isBlank d = false := by
  unfold quoteChar
  split
  · have hquotes : [single, double, single, double, single].all (fun d => !isBlank d) = true := by decide
    intro d hd
    simpa using List.all_eq_true.mp hquotes d hd
  · intro d hd
    rw [List.mem_singleton.mp hd]
    exact h

theorem not_blank_flatMap_quoteChar_iff (cs : Text) :
    (∀ c ∈ cs.flatMap quoteChar, isBlank c = false) ↔ ∀ c ∈ cs, isBlank c = false := by
  simp only [List.mem_flatMap, forall_exists_index, and_imp]
  constructor
  · exact fun h c hc => h c c hc (mem_quoteChar c)
  · exact fun h d c hc => not_blank_quoteChar (h c hc) d

theorem solid_quotation_iff (cs : Text) :
    Solid (cs.flatMap quoteChar ++ [single]) ↔ Solid cs := by
  induction cs with
  | nil => exact iff_of_true (by decide) (by decide)
  | cons c cs ih =>
    cases hc : isBlank c with
    | true =>
      have hne : c ≠ single := ne_of_blank hc isBlank_quote
      rw [List.flatMap_cons, quoteChar_of_ne hne, List.append_assoc, List.singleton_append,
        solid_cons_of_blank hc, solid_cons_of_blank hc, ih]
    | false =>
      obtain ⟨d, ds, hquote⟩ := List.exists_cons_of_ne_nil (List.ne_nil_of_mem (mem_quoteChar c))
      have hd : isBlank d = false := not_blank_quoteChar hc d (hquote ▸ List.mem_cons_self)
      have hds : ∀ e ∈ ds, isBlank e = false := fun e he =>
        not_blank_quoteChar hc e (hquote ▸ List.mem_cons_of_mem d he)
      rw [solid_cons_of_not_blank hc, ← not_blank_flatMap_quoteChar_iff, List.flatMap_cons, hquote,
        List.cons_append, List.cons_append, solid_cons_of_not_blank hd]
      simp only [List.mem_append, List.mem_singleton]
      constructor
      · exact fun h e he => h e (.inl (.inr he))
      · rintro h e ((he | he) | rfl)
        · exact hds e he
        · exact h e he
        · exact isBlank_quote

theorem exposed_quote_iff (w : Text) : Exposed (quote w) ↔ Exposed w := by
  by_cases hw : sign ∈ w
  · obtain ⟨front, back, rfl, hback⟩ := exists_last_sign hw
    have hsplit : quote (front ++ sign :: back) =
        (single :: front.flatMap quoteChar) ++ sign :: (back.flatMap quoteChar ++ [single]) := by
      simp [quote, quoteChar_of_ne (show sign ≠ single by decide)]
    have hrest : sign ∉ back.flatMap quoteChar ++ [single] := by
      simp [not_mem_flatMap_quoteChar hback]
    rw [hsplit, exposed_append_iff hrest, exposed_append_iff hback, solid_quotation_iff]
  · refine iff_of_false (not_exposed_of_not_mem ?_) (not_exposed_of_not_mem hw)
    simp [quote, not_mem_flatMap_quoteChar hw]

theorem exposed_append_space_iff (front back : Text) :
    Exposed (front ++ single :: space :: back) ↔ Exposed back := by
  by_cases hback : sign ∈ back
  · obtain ⟨mid, rest, rfl, hrest⟩ := exists_last_sign hback
    have hsplit : front ++ single :: space :: (mid ++ sign :: rest) =
        (front ++ single :: space :: mid) ++ sign :: rest := by simp
    rw [hsplit, exposed_append_iff hrest, exposed_append_iff hrest]
  · refine iff_of_false (fun h => ?_) (not_exposed_of_not_mem hback)
    obtain ⟨mid, rest, rfl, hrest⟩ := exists_last_sign (show sign ∈ front by simpa [hback] using h.1)
    have hsplit : (mid ++ sign :: rest) ++ single :: space :: back =
        mid ++ sign :: (rest ++ single :: space :: back) := by simp
    rw [hsplit, exposed_append_iff (by simp [hrest, hback])] at h
    exact not_solid_of_blank_inside isBlank_quote (by decide) rest back h

theorem exposed_quoteAll_iff (w : Text) (ws : List Text) :
    Exposed (quoteAll (w :: ws)) ↔ Exposed ((w :: ws).getLast (List.cons_ne_nil w ws)) := by
  induction ws generalizing w with
  | nil =>
    rw [quoteAll_singleton]
    exact exposed_quote_iff w
  | cons w' ws ih =>
    have hsplit : quoteAll (w :: w' :: ws) =
        (single :: w.flatMap quoteChar) ++ single :: space :: quoteAll (w' :: ws) := by
      simp [quote]
    rw [hsplit, exposed_append_space_iff, ih]
    rfl

theorem getLast?_quote (w : Text) : (quote w).getLast? = some single :=
  List.getLast?_concat

theorem getLast?_quoteAll (w : Text) (ws : List Text) :
    (quoteAll (w :: ws)).getLast? = some single := by
  induction ws generalizing w with
  | nil =>
    rw [quoteAll_singleton]
    exact getLast?_quote w
  | cons w' ws ih =>
    rw [quoteAll_cons_cons, List.getLast?_append_cons, List.getLast?_cons, ih]
    rfl

theorem head?_quoteAll (w : Text) (ws : List Text) :
    (quoteAll (w :: ws)).head? = some single := by
  cases ws <;> simp [quote]

end MemoryShell.CommandLine
