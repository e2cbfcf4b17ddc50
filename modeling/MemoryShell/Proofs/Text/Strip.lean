import Mathlib.Data.List.TakeWhile
import MemoryShell.Text.CodePoint

set_option autoImplicit false

namespace MemoryShell.Text

variable {cs bs : Text} {c : CodePoint}

theorem ne_of_blank {d : CodePoint} (hc : isBlank c = true) (hd : isBlank d = false) : c ≠ d := by
  rintro rfl
  rw [hc] at hd
  cases hd

theorem stripLeft_cons_of_blank (h : isBlank c = true) (cs : Text) :
    stripLeft (c :: cs) = stripLeft cs :=
  List.dropWhile_cons_of_pos h

theorem stripLeft_cons_of_not_blank (h : isBlank c = false) (cs : Text) :
    stripLeft (c :: cs) = c :: cs :=
  List.dropWhile_cons_of_neg (by simp [h])

theorem stripLeft_eq_nil_iff : stripLeft cs = [] ↔ ∀ c ∈ cs, isBlank c = true :=
  List.dropWhile_eq_nil_iff

theorem mem_of_mem_stripLeft (h : c ∈ stripLeft cs) : c ∈ cs :=
  (List.dropWhile_sublist _).subset h

theorem stripLeft_blank_append (h : ∀ c ∈ bs, isBlank c = true) (cs : Text) :
    stripLeft (bs ++ cs) = stripLeft cs :=
  List.dropWhile_append_of_pos h

theorem stripLeft_append (h : stripLeft cs ≠ []) (ds : Text) :
    stripLeft (cs ++ ds) = stripLeft cs ++ ds := by
  induction cs with
  | nil => exact absurd rfl h
  | cons c cs ih =>
    cases hc : isBlank c with
    | true =>
      rw [stripLeft_cons_of_blank hc] at h ⊢
      rw [List.cons_append, stripLeft_cons_of_blank hc]
      exact ih h
    | false =>
      rw [List.cons_append, stripLeft_cons_of_not_blank hc, stripLeft_cons_of_not_blank hc,
        List.cons_append]

theorem exists_blank_stripLeft (cs : Text) :
    ∃ bs, (∀ c ∈ bs, isBlank c = true) ∧ cs = bs ++ stripLeft cs :=
  ⟨cs.takeWhile isBlank, fun _ h => List.mem_takeWhile_imp h, (List.takeWhile_append_dropWhile).symm⟩

theorem exists_blank_stripRight (cs : Text) :
    ∃ bs, (∀ c ∈ bs, isBlank c = true) ∧ cs = stripRight cs ++ bs := by
  obtain ⟨bs, hbs, hcs⟩ := exists_blank_stripLeft cs.reverse
  refine ⟨bs.reverse, fun c hc => hbs c (List.mem_reverse.mp hc), ?_⟩
  rw [stripRight, ← List.reverse_append, ← hcs, List.reverse_reverse]

theorem stripRight_append_blank (h : ∀ c ∈ bs, isBlank c = true) (cs : Text) :
    stripRight (cs ++ bs) = stripRight cs := by
  rw [stripRight, List.reverse_append,
    stripLeft_blank_append fun c hc => h c (List.mem_reverse.mp hc)]
  rfl

theorem strip_append_blank (h : ∀ c ∈ bs, isBlank c = true) (cs : Text) :
    strip (cs ++ bs) = strip cs := by
  unfold strip
  by_cases hcs : stripLeft cs = []
  · obtain ⟨front, hfront, hsplit⟩ := exists_blank_stripLeft cs
    rw [hcs, List.append_nil] at hsplit
    rw [hsplit, stripLeft_blank_append hfront, stripLeft_eq_nil_iff.mpr h,
      stripLeft_eq_nil_iff.mpr hfront]
  · rw [stripLeft_append hcs, stripRight_append_blank h]

theorem strip_eq_self {first last : CodePoint} (hfirst : isBlank first = false)
    (hlast : isBlank last = false) (hhead : cs.head? = some first)
    (hend : cs.getLast? = some last) : strip cs = cs := by
  obtain ⟨rest, rfl⟩ : ∃ rest, cs = first :: rest := List.head?_eq_some_iff.mp hhead
  obtain ⟨front, hfront⟩ : ∃ front, first :: rest = front ++ [last] :=
    List.getLast?_eq_some_iff.mp hend
  rw [strip, stripLeft_cons_of_not_blank hfirst, hfront, stripRight, List.reverse_append,
    List.reverse_singleton, List.singleton_append, stripLeft_cons_of_not_blank hlast,
    List.reverse_cons, List.reverse_reverse]

end MemoryShell.Text
