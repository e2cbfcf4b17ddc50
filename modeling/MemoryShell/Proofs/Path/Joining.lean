import MemoryShell.Proofs.Path.Canonical

set_option autoImplicit false

namespace MemoryShell.Path

def front (directory : Text) : Text :=
  if directory = [] ∨ directory.getLast? = some slash then directory else directory ++ [slash]

theorem front_of_closed {directory : Text} (h : directory = [] ∨ directory.getLast? = some slash) :
    front directory = directory :=
  if_pos h

theorem front_of_open {directory : Text} (hne : directory ≠ [])
    (hend : directory.getLast? ≠ some slash) : front directory = directory ++ [slash] :=
  if_neg (not_or_intro hne hend)

theorem join_of_absolute (directory : Text) {spelling : Text} (h : isAbsolute spelling = true) :
    join directory spelling = spelling := by
  simp [join, h]

theorem join_of_relative (directory : Text) {spelling : Text} (h : isAbsolute spelling = false) :
    join directory spelling = front directory ++ spelling := by
  by_cases hfront : directory = [] ∨ directory.getLast? = some slash
  · simp [join, h, front, hfront]
  · simp [join, h, front, hfront]

theorem front_front (directory : Text) : front (front directory) = front directory := by
  by_cases h : directory = [] ∨ directory.getLast? = some slash
  · rw [front_of_closed h, front_of_closed h]
  · rw [not_or] at h
    have hend : (directory ++ [slash]).getLast? = some slash := by simp
    rw [front_of_open h.1 h.2, front_of_closed (.inr hend)]

theorem front_append {spelling : Text} (h : spelling ≠ []) (above : Text) :
    front (above ++ spelling) = above ++ front spelling := by
  have hlast : (above ++ spelling).getLast? = spelling.getLast? :=
    List.getLast?_append_of_ne_nil above h
  have hne : above ++ spelling ≠ [] := by simp [h]
  by_cases hend : spelling.getLast? = some slash
  · rw [front_of_closed (.inr (hlast.trans hend)), front_of_closed (.inr hend)]
  · have hopen : (above ++ spelling).getLast? ≠ some slash := by rwa [hlast]
    rw [front_of_open hne hopen, front_of_open h hend, List.append_assoc]

theorem isAbsolute_append {directory : Text} (h : directory ≠ []) (spelling : Text) :
    isAbsolute (directory ++ spelling) = isAbsolute directory := by
  obtain ⟨c, rest, rfl⟩ := List.exists_cons_of_ne_nil h
  rfl

theorem isAbsolute_front_append (directory : Text) {spelling : Text}
    (h : isAbsolute spelling = false) :
    isAbsolute (front directory ++ spelling) = isAbsolute directory := by
  by_cases hnil : directory = []
  · subst hnil
    exact h
  · by_cases hend : directory.getLast? = some slash
    · rw [front_of_closed (.inr hend), isAbsolute_append hnil]
    · rw [front_of_open hnil hend, List.append_assoc, isAbsolute_append hnil]

theorem join_assoc (s t u : Text) : join (join s t) u = join s (join t u) := by
  by_cases hu : isAbsolute u = true
  · rw [join_of_absolute _ hu, join_of_absolute t hu, join_of_absolute s hu]
  · have hu := Bool.eq_false_iff.mpr hu
    by_cases ht : isAbsolute t = true
    · rw [join_of_absolute s ht, join_of_absolute s (isAbsolute_join ht u)]
    · have ht := Bool.eq_false_iff.mpr ht
      have htu : isAbsolute (front t ++ u) = false := (isAbsolute_front_append t hu).trans ht
      rw [join_of_relative s ht, join_of_relative _ hu, join_of_relative t hu,
        join_of_relative s htu, ← List.append_assoc]
      congr 1
      by_cases hnil : t = []
      · subst hnil
        have hempty : front [] = [] := front_of_closed (.inl rfl)
        rw [List.append_nil, front_front, hempty, List.append_nil]
      · exact front_append hnil (front s)

theorem ofPieces_front_append (directory spelling : Text) :
    ofPieces (pieces (front directory ++ spelling)) =
      (pieces spelling).foldl enter (ofPieces (pieces directory)) := by
  by_cases hnil : directory = []
  · subst hnil
    have hstart : ofPieces (pieces []) = [] := enter_nil []
    have hempty : front [] = [] := front_of_closed (.inl rfl)
    rw [hempty, List.nil_append, hstart, ofPieces]
  · by_cases hend : directory.getLast? = some slash
    · obtain ⟨above, rfl⟩ := List.getLast?_eq_some_iff.mp hend
      -- the slash at the end makes one more piece, which is empty and stays
      have hdirectory : ofPieces (pieces (above ++ [slash])) = ofPieces (pieces above) := by
        have hsplit : pieces (above ++ [slash]) = pieces above ++ [[]] :=
          Text.split_append_separator slash above []
        rw [hsplit, ofPieces, List.foldl_append, List.foldl_cons, List.foldl_nil, enter_nil, ofPieces]
      have hsplit : pieces (above ++ [slash] ++ spelling) = pieces above ++ pieces spelling := by
        rw [List.append_assoc, List.singleton_append]
        exact Text.split_append_separator slash above spelling
      rw [hdirectory, front_of_closed (.inr hend), hsplit, ofPieces, List.foldl_append, ofPieces]
    · have hsplit : pieces (directory ++ [slash] ++ spelling) = pieces directory ++ pieces spelling := by
        rw [List.append_assoc, List.singleton_append]
        exact Text.split_append_separator slash directory spelling
      rw [front_of_open hnil hend, hsplit, ofPieces, List.foldl_append, ofPieces]

theorem resolve?_of_absolute (directory : Text) {spelling : Text} (h : isAbsolute spelling = true) :
    resolve? directory spelling = parse? spelling := by
  rw [resolve?, join_of_absolute directory h]

theorem resolve?_of_relative (directory : Text) {spelling : Text}
    (h : isAbsolute spelling = false) :
    resolve? directory spelling =
      (parse? directory).map fun p => (pieces spelling).foldl enter p := by
  rw [resolve?, join_of_relative directory h, parse?_eq, parse?_eq, isAbsolute_front_append directory h,
    ofPieces_front_append]
  cases isAbsolute directory <;> rfl

theorem resolve?_congr {directory other : Text} (h : parse? directory = parse? other)
    (spelling : Text) : resolve? directory spelling = resolve? other spelling := by
  by_cases hs : isAbsolute spelling = true
  · rw [resolve?_of_absolute directory hs, resolve?_of_absolute other hs]
  · have hs := Bool.eq_false_iff.mpr hs
    rw [resolve?_of_relative directory hs, resolve?_of_relative other hs, h]

theorem resolve?_join {directory spelling : Text} {p : Path}
    (h : resolve? directory spelling = some p) (further : Text) :
    resolve? directory (join spelling further) = resolve? p.text further := by
  have hplace : parse? (join directory spelling) = parse? p.text := h.trans (parse?_text p).symm
  rw [resolve?, ← join_assoc]
  exact resolve?_congr hplace further

end MemoryShell.Path
