import MemoryShell.Path.Basic

set_option autoImplicit false

namespace MemoryShell

theorem Text.split_ne_nil (separator : CodePoint) (t : Text) : t.split separator ≠ [] := by
  cases t with
  | nil => simp [Text.split]
  | cons c t =>
    by_cases h : c = separator
    · simp [Text.split, h]
    · simp only [Text.split, h, if_false]
      split <;> simp

theorem Text.split_append {separator : CodePoint} {s t p : Text} {ps : List Text}
    (hs : separator ∉ s) (ht : t.split separator = p :: ps) :
    Text.split separator (s ++ t) = (s ++ p) :: ps := by
  induction s with
  | nil => simpa using ht
  | cons c s ih =>
    have hc : c ≠ separator := fun h => hs (h ▸ List.mem_cons_self)
    have hr := ih fun h => hs (List.mem_cons_of_mem c h)
    simp [Text.split, hc, hr]

theorem Text.prefix_of_split {separator : CodePoint} {t p : Text} {ps : List Text}
    (h : t.split separator = p :: ps) : p <+: t := by
  induction t generalizing p ps with
  | nil =>
    rw [Text.split] at h
    exact (List.cons.inj h).1 ▸ List.nil_prefix
  | cons c t ih =>
    rw [Text.split] at h
    split at h
    · exact (List.cons.inj h).1 ▸ List.nil_prefix
    · split at h
      · rename_i hnil
        exact absurd hnil (Text.split_ne_nil separator t)
      · rename_i q qs hq
        rw [← (List.cons.inj h).1]
        exact List.cons_prefix_cons.mpr ⟨rfl, ih hq⟩

theorem Text.infix_of_mem_split {separator : CodePoint} {t p : Text}
    (h : p ∈ t.split separator) : p <:+: t := by
  induction t generalizing p with
  | nil =>
    rw [Text.split, List.mem_singleton] at h
    exact h ▸ List.nil_infix
  | cons c t ih =>
    rw [Text.split] at h
    split at h
    · rcases List.mem_cons.mp h with rfl | h
      · exact List.nil_infix
      · exact List.infix_cons (ih h)
    · split at h
      · rename_i hnil
        exact absurd hnil (Text.split_ne_nil separator t)
      · rename_i q qs hq
        rcases List.mem_cons.mp h with rfl | h
        · exact (List.cons_prefix_cons.mpr ⟨rfl, Text.prefix_of_split hq⟩).isInfix
        · exact List.infix_cons (ih (hq ▸ List.mem_cons_of_mem q h))

namespace Name

theorem slash_notMem (n : Name) : slash ∉ n.text := by
  intro h
  have hn := n.valid
  simp [isName, h] at hn

theorem ext_text {a b : Name} (h : a.text = b.text) : a = b := by
  cases a
  cases b
  simpa using h

end Name

namespace Path

theorem enter_nil (p : Path) : enter p [] = p := by
  simp [enter, isName, dotDot]

theorem enter_name (p : Path) (n : Name) : enter p n.text = p ++ [n] := by
  simp [enter, n.valid]

theorem foldl_enter_names (p q : Path) : (q.map Name.text).foldl enter p = p ++ q := by
  induction q generalizing p with
  | nil => simp
  | cons n q ih =>
    rw [List.map_cons, List.foldl_cons, enter_name, ih]
    simp

theorem pieces_flatMap (p : Path) :
    pieces (p.flatMap fun n => slash :: n.text) = [] :: p.map Name.text := by
  induction p with
  | nil => rfl
  | cons n p ih =>
    have hn := Text.split_append n.slash_notMem ih
    simp only [List.append_nil] at hn
    simp [pieces, Text.split, hn]

theorem text_cons (n : Name) (p : Path) :
    text (n :: p) = (n :: p).flatMap fun n => slash :: n.text := rfl

@[simp] theorem isAbsolute_text (p : Path) : isAbsolute p.text = true := by
  cases p <;> simp [text, isAbsolute]

@[simp] theorem parse?_text (p : Path) : parse? p.text = some p := by
  rw [parse?, if_pos (isAbsolute_text p)]
  cases p with
  | nil => rfl
  | cons n p =>
    rw [text_cons, pieces_flatMap, ofPieces, List.foldl_cons, enter_nil, foldl_enter_names]
    simp

theorem text_injective {p q : Path} (h : p.text = q.text) : p = q := by
  have hp := parse?_text p
  rw [h, parse?_text] at hp
  exact (Option.some.inj hp).symm

theorem parse?_eq_some_of_isAbsolute {t : Text} (h : isAbsolute t = true) :
    parse? t = some (ofPieces (pieces t)) := by
  simp [parse?, h]

theorem isAbsolute_join {directory : Text} (h : isAbsolute directory = true) (spelling : Text) :
    isAbsolute (join directory spelling) = true := by
  cases directory with
  | nil => simp [isAbsolute] at h
  | cons c directory =>
    unfold join
    by_cases hs : isAbsolute spelling = true
    · simp [hs]
    · rw [if_neg hs]
      split
      · simpa [isAbsolute] using h
      · simpa [isAbsolute] using h

theorem exists_resolve? {directory : Text} (h : isAbsolute directory = true) (spelling : Text) :
    ∃ p, resolve? directory spelling = some p :=
  ⟨_, parse?_eq_some_of_isAbsolute (isAbsolute_join h spelling)⟩

theorem text_mem_of_mem_foldl_enter {p : Path} {ps : List Text} {n : Name}
    (h : n ∈ ps.foldl enter p) : n ∈ p ∨ n.text ∈ ps := by
  induction ps generalizing p with
  | nil => exact .inl h
  | cons piece ps ih =>
    rcases ih h with hp | hps
    · unfold enter at hp
      split at hp
      · rcases List.mem_append.mp hp with hp | hn
        · exact .inl hp
        · rw [List.mem_singleton.mp hn]
          exact .inr List.mem_cons_self
      · split at hp
        · exact .inl (List.dropLast_subset p hp)
        · exact .inl hp
    · exact .inr (List.mem_cons_of_mem piece hps)

theorem infix_of_mem_parse? {t : Text} {p : Path} (hp : parse? t = some p) {n : Name}
    (hn : n ∈ p) : n.text <:+: t := by
  unfold parse? at hp
  split at hp
  · obtain rfl := Option.some.inj hp
    rcases text_mem_of_mem_foldl_enter hn with hnil | hpiece
    · cases hnil
    · exact Text.infix_of_mem_split hpiece
  · cases hp

end Path

end MemoryShell
