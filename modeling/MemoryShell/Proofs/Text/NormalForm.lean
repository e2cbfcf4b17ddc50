import Mathlib.Data.List.Chain
import MemoryShell.Proofs.Text.Composition

set_option autoImplicit false

namespace MemoryShell.Text

/-! ## Characters that stand for themselves -/

theorem parts?_of_lt {c : Char} (h : c.toNat < 0xC0) : parts? c = none := by
  refine parts?_eq_none_of_notMem (syllable?_eq_none (by omega)) fun hkey => ?_
  obtain ⟨e, he, hec⟩ := mem_keysOf.mp hkey
  have hlow := (composite_of_mem he).key
  omega

theorem compose?_of_lt {a b : Char} (h : b.toNat < 0x80) : compose? a b = none := by
  have hvowel : position? firstVowel vowelCount b.toNat = none :=
    position?_of_lt (by simp only [firstVowel]; omega) _
  have htrailing : position? firstTrailing trailingCount b.toNat = none :=
    position?_of_lt (by simp only [firstTrailing]; omega) _
  have hsyllable : composeSyllable? a b = none := by
    rw [composeSyllable?, hvowel, htrailing]
    cases position? firstLeading leadingCount a.toNat <;> cases syllable? a <;> rfl
  rw [compose?, hsyllable]
  simp only [Option.map_eq_none_iff, List.find?_eq_none, decide_eq_true_eq]
  intro entry hentry heq
  have hbehind := (composite_of_mem hentry).behind
  rw [heq] at hbehind
  exact absurd hbehind (Nat.not_le.mpr h)

theorem combiningClass_of_lt {c : Char} (h : c.toNat < 0x300) : combiningClass c = 0 := by
  have htable : ∀ entry ∈ combiningRanges, ∀ r ∈ entry.2, 0x300 ≤ r.1 := by decide +kernel
  have hnone : combiningRanges.find? (fun entry => inRanges entry.2 c.toNat) = none := by
    refine List.find?_eq_none.mpr fun entry hentry hin => ?_
    obtain ⟨r, hr, hle, -⟩ := inRanges_iff.mp hin
    have := htable entry hentry r hr
    omega
  rw [combiningClass, hnone]

theorem listedDecomposition?_of_lt {c : Char} (h : c.toNat < 0xAA) :
    listedDecomposition? c = none := by
  have htable : ∀ run ∈ decompositionRuns, 0xAA ≤ run.1 := by decide +kernel
  have hnone : decompositions.find?
      (fun run => (position? run.1 run.2.length c.toNat).isSome) = none := by
    refine List.find?_eq_none.mpr fun entry hentry hin => ?_
    obtain ⟨run, hrun, rfl⟩ := List.mem_map.mp hentry
    have hfirst := htable run hrun
    rw [position?_of_lt (by simp only; omega)] at hin
    cases hin
  rw [listedDecomposition?, hnone]

theorem decompose_of_lt {c : Char} (h : c.toNat < 0xC0) :
    decompose c = (listedDecomposition? c).getD [c] := by
  rw [decompose, compositionDepth, decomposeWithin, parts?_of_lt h]

theorem combiningClass_ascii {c : Char} (h : c.toNat < 0x80) : combiningClass c = 0 :=
  combiningClass_of_lt (by omega)

theorem simple_ascii {c : Char} (h : c.toNat < 0x80) : Simple c :=
  ⟨parts?_of_lt (by omega), listedDecomposition?_of_lt (by omega)⟩

theorem decompose_ascii {c : Char} (h : c.toNat < 0x80) : decompose c = [c] :=
  (simple_ascii h).decompose

/-! ## Marks in order -/

/-- A character may stand in front of another one that is a starter or not of a lower class. -/
def Precedes (c d : Char) : Prop :=
  combiningClass d = 0 ∨ combiningClass c ≤ combiningClass d

def Ordered (cs : List Char) : Prop :=
  List.IsChain Precedes cs

theorem passes_iff {c d : Char} : (combiningClass d ≠ 0 && combiningClass d < combiningClass c) = true ↔
    ¬ Precedes c d := by
  simp [Precedes]

@[simp] theorem mem_placeMark {c d : Char} {cs : List Char} : d ∈ placeMark c cs ↔ d = c ∨ d ∈ cs := by
  induction cs with
  | nil => simp [placeMark]
  | cons e es ih =>
    rw [placeMark]
    split
    · rw [List.mem_cons, ih, List.mem_cons, or_left_comm]
    · rw [List.mem_cons]

@[simp] theorem mem_orderMarks {d : Char} {cs : List Char} : d ∈ orderMarks cs ↔ d ∈ cs := by
  induction cs with
  | nil => rfl
  | cons c cs ih => rw [orderMarks, mem_placeMark, ih, List.mem_cons]

theorem ordered_placeMark {cs : List Char} (h : Ordered cs) (c : Char) : Ordered (placeMark c cs) := by
  induction cs with
  | nil => exact .singleton c
  | cons d ds ih =>
    rw [placeMark]
    split
    · next hpasses =>
      have hless : combiningClass d ≤ combiningClass c := by
        simp only [Bool.and_eq_true, decide_eq_true_eq] at hpasses
        exact Nat.le_of_lt hpasses.2
      have hrest := ih h.tail
      cases ds with
      | nil => exact .cons_cons (.inr hless) hrest
      | cons e es =>
        rw [placeMark] at hrest ⊢
        split
        · next hpasses' =>
          rw [if_pos hpasses'] at hrest
          exact .cons_cons (List.isChain_cons_cons.mp h).1 hrest
        · next hstays =>
          rw [if_neg hstays] at hrest
          exact .cons_cons (.inr hless) hrest
    · next hstays => exact .cons_cons (not_not.mp (mt passes_iff.mpr hstays)) h

theorem ordered_orderMarks : (cs : List Char) → Ordered (orderMarks cs)
  | [] => .nil
  | c :: cs => ordered_placeMark (ordered_orderMarks cs) c

theorem orderMarks_of_ordered {cs : List Char} (h : Ordered cs) : orderMarks cs = cs := by
  induction cs with
  | nil => rfl
  | cons c cs ih =>
    rw [orderMarks, ih h.tail]
    cases cs with
    | nil => rfl
    | cons d ds =>
      have hprecedes := (List.isChain_cons_cons.mp h).1
      rw [placeMark, if_neg fun hpasses => passes_iff.mp hpasses hprecedes]

theorem orderMarks_append (us vs : List Char) :
    orderMarks (us ++ vs) = us.foldr placeMark (orderMarks vs) := by
  induction us with
  | nil => rfl
  | cons u us ih => rw [List.cons_append, orderMarks, ih, List.foldr_cons]

theorem orderMarks_append_congr {vs ws : List Char} (us : List Char) (h : orderMarks vs = orderMarks ws) :
    orderMarks (us ++ vs) = orderMarks (us ++ ws) := by
  rw [orderMarks_append, orderMarks_append, h]

/-- Marks of different classes are put in place in any order. -/
theorem placeMark_comm {c k : Char} (hk : combiningClass k ≠ 0)
    (hlt : combiningClass k < combiningClass c) (cs : List Char) :
    placeMark c (placeMark k cs) = placeMark k (placeMark c cs) := by
  have hpast : ∀ cs, placeMark c (k :: cs) = k :: placeMark c cs := fun cs => by
    rw [placeMark, if_pos (by simp [hk, hlt])]
  have hstays : ∀ cs, placeMark k (c :: cs) = k :: c :: cs := fun cs => by
    rw [placeMark, if_neg (by simp; omega)]
  induction cs with
  | nil => rw [placeMark, hpast, placeMark, hstays]
  | cons d ds ih =>
    rw [placeMark.eq_2 k]
    split
    · next hd =>
      have hd' : (combiningClass d ≠ 0 && combiningClass d < combiningClass c) = true := by
        simp only [Bool.and_eq_true, decide_eq_true_eq] at hd ⊢
        omega
      rw [placeMark, if_pos hd', ih, placeMark.eq_2 c, if_pos hd', placeMark, if_pos hd]
    · next hd =>
      rw [hpast, placeMark.eq_2 c]
      split
      · rw [placeMark, if_neg hd]
      · rw [hstays]

theorem orderMarks_swap {c : Char} {kept : List Char}
    (h : ∀ k ∈ kept, combiningClass k ≠ 0 ∧ combiningClass k < combiningClass c) (cs : List Char) :
    orderMarks (c :: (kept ++ cs)) = orderMarks (kept ++ c :: cs) := by
  induction kept with
  | nil => rfl
  | cons k kept ih =>
    obtain ⟨hk, hlt⟩ := h k List.mem_cons_self
    have hrest := ih fun l hl => h l (List.mem_cons_of_mem k hl)
    rw [List.cons_append, orderMarks, orderMarks, placeMark_comm hk hlt, List.cons_append, orderMarks,
      ← hrest, orderMarks]

/-! ## Composing -/

theorem flatMap_decompose_simple {cs : List Char} (h : ∀ c ∈ cs, Simple c) : cs.flatMap decompose = cs := by
  induction cs with
  | nil => rfl
  | cons c cs ih =>
    rw [List.flatMap_cons, (h c List.mem_cons_self).decompose,
      ih fun d hd => h d (List.mem_cons_of_mem c hd), List.singleton_append]

theorem Ordered.without {kept cs : List Char} {c : Char} (h : Ordered (kept ++ c :: cs))
    (hc : kept = [] ∨ combiningClass c ≠ 0) : Ordered (kept ++ cs) := by
  obtain ⟨hkept, hcs, hjoint⟩ := List.isChain_append.mp h
  refine List.isChain_append.mpr ⟨hkept, hcs.tail, fun k hk d hd => ?_⟩
  have hkc : Precedes k c := hjoint k hk c rfl
  have hcd : Precedes c d := by
    cases cs with
    | nil => cases hd
    | cons e es =>
      obtain rfl := Option.some.inj hd
      exact (List.isChain_cons_cons.mp hcs).1
  rcases hc with rfl | hc
  · cases hk
  · exact hcd.imp_right fun hle => Nat.le_trans (hkc.resolve_left hc) hle

/-- Marks in order are of lower classes than whatever the last of them is lower than. -/
theorem Ordered.lt_of_last_lt {kept : List Char} {n : Nat} (h : Ordered kept)
    (hkept : ∀ k ∈ kept, combiningClass k ≠ 0) (hlast : ∀ k ∈ kept.getLast?, combiningClass k < n) :
    ∀ k ∈ kept, combiningClass k < n := by
  induction kept using List.reverseRecOn with
  | nil => exact fun k hk => absurd hk List.not_mem_nil
  | append_singleton kept last ih =>
    obtain ⟨hfront, -, hjoint⟩ := List.isChain_append.mp h
    have hless : combiningClass last < n := hlast last (by simp)
    have hnonzero : combiningClass last ≠ 0 := hkept last (by simp)
    intro k hk
    rcases List.mem_append.mp hk with hk | hk
    · refine ih hfront (fun l hl => hkept l (List.mem_append_left _ hl)) (fun l hl => ?_) k hk
      exact Nat.lt_of_le_of_lt ((hjoint l hl last rfl).resolve_left hnonzero) hless
    · rwa [List.mem_singleton.mp hk]

theorem lt_of_not_isBlocked {kept : List Char} {c : Char} (h : isBlocked kept c = false) :
    ∀ k ∈ kept.getLast?, combiningClass k < combiningClass c := by
  intro k hk
  rw [isBlocked, hk] at h
  exact Nat.lt_of_not_le (of_decide_eq_false h)

/-- What has been composed comes apart again into what it has been composed of, in order. -/
theorem orderMarks_composeFrom (starter : Char) (kept : List Char) {cs : List Char}
    (hkept : ∀ k ∈ kept, combiningClass k ≠ 0) (hsimple : ∀ c ∈ kept ++ cs, Simple c)
    (hordered : Ordered (kept ++ cs)) :
    orderMarks ((composeFrom starter kept cs).flatMap decompose) =
      orderMarks (decompose starter ++ (kept ++ cs)) := by
  induction cs generalizing starter kept with
  | nil =>
    rw [List.append_nil] at hsimple
    rw [composeFrom, List.flatMap_cons, List.append_nil, flatMap_decompose_simple hsimple]
  | cons c cs ih =>
    have hc : Simple c := hsimple c (by simp)
    have hcs : ∀ d ∈ cs, Simple d := fun d hd => hsimple d (by simp [hd])
    have hsimple' : ∀ k ∈ kept, Simple k := fun k hk => hsimple k (by simp [hk])
    rw [composeFrom]
    cases hcomposed : if isBlocked kept c then none else compose? starter c with
    | some composed =>
      obtain ⟨hfree, hcomposed⟩ := Option.ite_none_left_eq_some.mp hcomposed
      have hless := lt_of_not_isBlocked (Bool.eq_false_iff.mpr hfree)
      have hhigher := Ordered.lt_of_last_lt (List.isChain_append.mp hordered).1 hkept hless
      have hnonzero : kept = [] ∨ combiningClass c ≠ 0 := by
        cases kept with
        | nil => exact .inl rfl
        | cons k _ => exact .inr (Nat.ne_of_gt (Nat.zero_lt_of_lt (hhigher k List.mem_cons_self)))
      have hrest := ih composed kept hkept
        (fun d hd => (List.mem_append.mp hd).elim (hsimple' d) (hcs d)) (hordered.without hnonzero)
      have hswap := orderMarks_swap (fun k hk => ⟨hkept k hk, hhigher k hk⟩) cs
      dsimp only
      rw [hrest, decompose_of_parts? (parts?_of_compose? hcomposed), hc.decompose, List.append_assoc]
      exact orderMarks_append_congr _ hswap
    | none =>
      dsimp only
      split
      · have hrest := ih c [] (by simp) hcs
          (List.isChain_append.mp hordered).2.1.tail
        rw [hc.decompose] at hrest
        rw [List.cons_append, List.flatMap_cons, List.flatMap_append,
          flatMap_decompose_simple hsimple']
        exact orderMarks_append_congr _ (orderMarks_append_congr _ hrest)
      · next hmark =>
        have hassoc : kept ++ [c] ++ cs = kept ++ c :: cs := by rw [List.append_assoc]; rfl
        have hrest := ih starter (kept ++ [c])
          (fun k hk => (List.mem_append.mp hk).elim (hkept k) fun hk => by
            rwa [List.mem_singleton.mp hk])
          (hassoc ▸ hsimple) (hassoc ▸ hordered)
        rw [hrest, hassoc]

theorem orderMarks_composeMarks {cs : List Char} (hsimple : ∀ c ∈ cs, Simple c) (hordered : Ordered cs) :
    orderMarks ((composeMarks cs).flatMap decompose) = orderMarks cs := by
  induction cs with
  | nil => rfl
  | cons c cs ih =>
    have hc : decompose c = [c] := (hsimple c List.mem_cons_self).decompose
    have hcs : ∀ d ∈ cs, Simple d := fun d hd => hsimple d (List.mem_cons_of_mem c hd)
    rw [composeMarks]
    split
    · rw [orderMarks_composeFrom c [] (by simp) hcs hordered.tail, hc]
      rfl
    · rw [List.flatMap_cons, hc]
      exact orderMarks_append_congr [c] (ih hcs hordered.tail)

/-- A normal form is its own normal form. -/
theorem normalForm_normalForm (s : String) : normalForm (normalForm s) = normalForm s := by
  have hform : ∀ cs : List Char, (∀ c ∈ cs, Simple c) → Ordered cs →
      normalForm (String.ofList (composeMarks cs)) = String.ofList (composeMarks cs) := by
    intro cs hsimple hordered
    rw [normalForm, String.toList_ofList, orderMarks_composeMarks hsimple hordered,
      orderMarks_of_ordered hordered, ite_self]
  by_cases hascii : (s.toList.all fun c => c.toNat < 0x80) = true
  · have hs : normalForm s = s := if_pos hascii
    rw [hs, hs]
  · have hs : normalForm s =
        String.ofList (composeMarks (orderMarks (s.toList.flatMap decompose))) :=
      if_neg hascii
    rw [hs]
    refine hform _ (fun c hc => ?_) (ordered_orderMarks _)
    obtain ⟨d, -, hd⟩ := List.mem_flatMap.mp (mem_orderMarks.mp hc)
    exact simple_of_mem_decompose hd

/-! ## Texts that decompose to ASCII -/

section

variable {cs : List Char} (h : ∀ c ∈ cs, c.toNat < 0x80)

include h

theorem flatMap_decompose_ascii : cs.flatMap decompose = cs :=
  flatMap_decompose_simple fun c hc => simple_ascii (h c hc)

theorem ordered_ascii : Ordered cs := by
  induction cs with
  | nil => exact .nil
  | cons c cs ih =>
    have hrest := ih fun d hd => h d (List.mem_cons_of_mem c hd)
    cases cs with
    | nil => exact .singleton c
    | cons d ds => exact .cons_cons (.inl (combiningClass_ascii (h d (by simp)))) hrest

theorem orderMarks_ascii : orderMarks cs = cs :=
  orderMarks_of_ordered (ordered_ascii h)

theorem composeFrom_ascii (starter : Char) : composeFrom starter [] cs = starter :: cs := by
  induction cs generalizing starter with
  | nil => rfl
  | cons c cs ih =>
    have hc := h c List.mem_cons_self
    simp [composeFrom, isBlocked, compose?_of_lt hc, combiningClass_ascii hc,
      ih fun d hd => h d (List.mem_cons_of_mem _ hd)]

theorem composeMarks_ascii : composeMarks cs = cs := by
  cases cs with
  | nil => rfl
  | cons c cs =>
    rw [composeMarks, if_pos (combiningClass_ascii (h c List.mem_cons_self)),
      composeFrom_ascii fun d hd => h d (List.mem_cons_of_mem _ hd)]

end

theorem normalForm_of_decomposed {s : String}
    (h : ∀ c ∈ s.toList.flatMap decompose, c.toNat < 0x80) :
    normalForm s = String.ofList (s.toList.flatMap decompose) := by
  rw [normalForm, orderMarks_ascii h, composeMarks_ascii h]
  split
  · next hascii =>
    rw [flatMap_decompose_ascii fun c hc => of_decide_eq_true (List.all_eq_true.mp hascii c hc),
      String.ofList_toList]
  · rfl

end MemoryShell.Text
