import Mathlib.Data.List.Infix
import MemoryShell.Command.Copy
import MemoryShell.Proofs.Path.Spelling

set_option autoImplicit false

namespace MemoryShell

theorem Text.split_append_separator (separator : CodePoint) (s t : Text) :
    Text.split separator (s ++ separator :: t) = s.split separator ++ t.split separator := by
  induction s with
  | nil => simp [Text.split]
  | cons c s ih =>
    by_cases hc : c = separator
    · simp [Text.split, hc, ih]
    · obtain ⟨p, ps, hs⟩ := List.exists_cons_of_ne_nil (Text.split_ne_nil separator s)
      simp [Text.split, hc, ih, hs]

theorem Name.text_ne_nil (n : Name) : n.text ≠ [] := by
  intro h
  have hn := n.valid
  simp [isName, h] at hn

namespace Path

variable {p q : Path}

theorem text_of_ne_nil (h : p ≠ []) : p.text = p.flatMap fun n => slash :: n.text := by
  obtain ⟨n, p, rfl⟩ := List.exists_cons_of_ne_nil h
  exact text_cons n p

theorem pieces_text (h : p ≠ []) : pieces p.text = [] :: p.map Name.text := by
  rw [text_of_ne_nil h, pieces_flatMap]

theorem map_text_prefix_iff : p.map Name.text <+: q.map Name.text ↔ p <+: q := by
  constructor
  · rintro ⟨r, hr⟩
    obtain ⟨front, back, rfl, hfront, -⟩ := List.map_eq_append_iff.mp hr.symm
    have hp : front = p := List.map_injective_iff.mpr (fun _ _ => Name.ext_text) hfront
    exact hp ▸ List.prefix_append front back
  · exact fun h => h.map Name.text

theorem text_append_cons (hp : p ≠ []) (n : Name) (r : Path) :
    text (p ++ n :: r) = p.text ++ slash :: (n.text ++ r.flatMap fun n => slash :: n.text) := by
  rw [text_of_ne_nil (by simp), text_of_ne_nil hp, List.flatMap_append, List.flatMap_cons,
    List.cons_append]

theorem join_text (p : Path) (n : Name) : join p.text n.text = text (p ++ [n]) := by
  have hrelative : isAbsolute n.text = false := by
    obtain ⟨c, cs, hn⟩ := List.exists_cons_of_ne_nil n.text_ne_nil
    have hc : c ≠ slash := fun h => n.slash_notMem (by rw [hn, h]; exact List.mem_cons_self)
    simp [isAbsolute, hn, hc]
  rcases List.eq_nil_or_concat p with rfl | ⟨above, last, rfl⟩
  · simp [join, hrelative, text]
  · rw [List.concat_eq_append]
    have hend : text (above ++ [last]) =
        (above.flatMap fun n => slash :: n.text) ++ slash :: last.text := by
      simp [text_of_ne_nil]
    have hlast : (text (above ++ [last])).getLast? ≠ some slash := by
      rw [hend, List.getLast?_append_of_ne_nil _ (List.cons_ne_nil _ _),
        List.getLast?_cons_of_ne_nil last.text_ne_nil]
      exact fun h => last.slash_notMem (List.mem_of_getLast? h)
    have hne : text (above ++ [last]) ≠ [] := by
      rw [hend]
      simp
    have htext : text (above ++ [last] ++ [n]) = text (above ++ [last]) ++ slash :: n.text := by
      rw [text_append_cons (List.concat_ne_nil last above) n [], List.flatMap_nil, List.append_nil]
    rw [htext, join, hrelative]
    simp only [Bool.false_eq_true, if_false, hne, hlast, decide_false, Bool.or_self]

theorem foldl_join_text (p q : Path) :
    q.foldl (fun t n => join t n.text) p.text = text (p ++ q) := by
  induction q generalizing p with
  | nil => simp
  | cons n q ih => rw [List.foldl_cons, join_text, ih, List.append_assoc, List.singleton_append]

theorem prefix_iff_text (hp : p ≠ []) :
    p <+: q ↔ q.text = p.text ∨ p.text ++ [slash] <+: q.text := by
  constructor
  · rintro ⟨r, rfl⟩
    cases r with
    | nil => exact .inl (by rw [List.append_nil])
    | cons n r =>
      refine .inr ⟨n.text ++ r.flatMap fun n => slash :: n.text, ?_⟩
      rw [text_append_cons hp, List.append_assoc, List.singleton_append]
  · rintro (h | ⟨t, ht⟩)
    · rw [text_injective h]
    · rw [List.append_assoc, List.singleton_append] at ht
      have hpieces : pieces q.text = ([] :: p.map Name.text) ++ pieces t := by
        rw [← ht, pieces, Text.split_append_separator, ← pieces, pieces_text hp]
        rfl
      have hq : q ≠ [] := by
        rintro rfl
        -- the root is spelled by two empty pieces, and a name is none
        obtain ⟨n, p, rfl⟩ := List.exists_cons_of_ne_nil hp
        have htwo : pieces (text []) = [[], []] := rfl
        rw [htwo, List.map_cons, List.cons_append, List.cons_append] at hpieces
        exact n.text_ne_nil (List.cons.inj (List.cons.inj hpieces).2).1.symm
      rw [pieces_text hq, List.cons_append] at hpieces
      exact map_text_prefix_iff.mp ⟨_, (List.cons.inj hpieces).2.symm⟩

theorem not_isPrefix_text_nil (p : Path) : ¬ text [] ++ [slash] <+: p.text := by
  rintro ⟨t, ht⟩
  cases p with
  | nil => simp [text] at ht
  | cons n p =>
    obtain ⟨c, cs, hn⟩ := List.exists_cons_of_ne_nil n.text_ne_nil
    rw [text_cons, List.flatMap_cons, hn] at ht
    have hc : slash = c := by simpa [text] using (List.cons.inj (List.cons.inj ht).2).1
    exact n.slash_notMem (by rw [hn, hc]; exact List.mem_cons_self)

end Path

namespace Commands

theorem liesIn_iff {directory p : Path} (h : directory ≠ []) :
    liesIn directory p = true ↔ directory <+: p := by
  simp only [liesIn, h, ne_eq, not_false_eq_true, decide_true, Bool.true_and, Bool.or_eq_true,
    decide_eq_true_eq, List.isPrefixOf_iff_prefix]
  exact or_iff_right_of_imp fun heq => heq ▸ List.prefix_refl p

theorem liesIn_iff_text (directory p : Path) :
    liesIn directory p = true ↔
      p.text = directory.text ∨ directory.text ++ [slash] <+: p.text := by
  by_cases h : directory = []
  · subst h
    have hroot : liesIn [] p = true ↔ p = [] := by simp [liesIn]
    rw [hroot, or_iff_left (Path.not_isPrefix_text_nil p)]
    exact ⟨fun hp => by rw [hp], Path.text_injective⟩
  · rw [liesIn_iff h, Path.prefix_iff_text h]

end Commands

end MemoryShell
