import Mathlib.Data.List.Infix
import MemoryShell.Proofs.Volume.FlatView

set_option autoImplicit false

namespace MemoryShell

namespace Entries

theorem update_update (es : Entries) (name : Name) (f g : Node → Node) :
    update (update es name g) name f = update es name fun node => f (g node) := by
  rw [update, update, update, List.map_map]
  refine List.map_congr_left fun e _ => ?_
  by_cases h : e.1 = name <;> simp [h]

theorem update_comm (es : Entries) {m n : Name} (hmn : m ≠ n) (f g : Node → Node) :
    update (update es n g) m f = update (update es m f) n g := by
  simp only [update, List.map_map]
  refine List.map_congr_left fun e _ => ?_
  by_cases hm : e.1 = m
  · simp [hm, hmn]
  · by_cases hn : e.1 = n
    · simp [hn, hmn.symm]
    · simp [hm, hn]

theorem erase_update (es : Entries) (m n : Name) (f : Node → Node) :
    erase (update es m f) n = update (erase es n) m f := by
  rw [erase, update, List.filter_map, update, erase]
  refine congrArg _ (List.filter_congr fun e _ => ?_)
  by_cases h : e.1 = m <;> simp [h]

theorem erase_update_self (es : Entries) (name : Name) (f : Node → Node) :
    erase (update es name f) name = erase es name := by
  rw [erase_update, update, erase]
  refine List.map_congr_left (fun e he => ?_) |>.trans (List.map_id _)
  have hne : e.1 ≠ name := by simpa using (List.mem_filter.mp he).2
  simp [hne]

theorem erase_comm (es : Entries) (m n : Name) : erase (erase es m) n = erase (erase es n) m := by
  simp only [erase, List.filter_filter, Bool.and_comm]

end Entries

namespace Node

theorem modify_append (f : Node → Node) (p q : Path) (node : Node) :
    modify f (p ++ q) node = modify (modify f q) p node := by
  induction p generalizing node with
  | nil => rfl
  | cons name rest ih =>
    cases node with
    | file s data => rfl
    | directory s es =>
      rw [List.cons_append, modify, modify]
      exact congrArg (fun f => directory s (Entries.update es name f)) (funext ih)

theorem modify_modify (f g : Node → Node) (p : Path) (node : Node) :
    modify f p (modify g p node) = modify (fun child => f (g child)) p node := by
  induction p generalizing node with
  | nil => rfl
  | cons name rest ih =>
    cases node with
    | file s data => rfl
    | directory s es =>
      rw [modify, modify, modify, Entries.update_update]
      exact congrArg (fun f => directory s (Entries.update es name f)) (funext ih)

theorem modify_comm_of_below (f g : Node → Node) (p q r : Path)
    (h : ∀ child, modify f q (modify g r child) = modify g r (modify f q child)) (node : Node) :
    modify f (p ++ q) (modify g (p ++ r) node) = modify g (p ++ r) (modify f (p ++ q) node) := by
  rw [modify_append, modify_append g, modify_modify, modify_append, modify_append f, modify_modify]
  exact congrArg (modify · p node) (funext h)

def without (now : Int) (name : Name) (d : Node) : Node :=
  (d.mapEntries (Entries.erase · name)).touch now

def prune (now : Int) (p : Path) (root : Node) : Node :=
  match p.getLast? with
  | none => root
  | some name => if (root.entry p).isSome then modify (without now name) p.dropLast root else root

def pruneAll (now : Int) (ps : List Path) (root : Node) : Node :=
  ps.foldl (fun root p => prune now p root) root

theorem without_comm (now : Int) (m n : Name) (d : Node) :
    without now m (without now n d) = without now n (without now m d) := by
  cases d with
  | file s data => rfl
  | directory s es =>
    simp only [without, mapEntries, touch, setTime, mapStamp, Entries.erase_comm es n m]

theorem without_modify_comm (now : Int) (m n : Name) (f : Node → Node) (rest : Path) (d : Node) :
    without now m (modify f (n :: rest) d) = modify f (n :: rest) (without now m d) := by
  cases d with
  | file s data => rfl
  | directory s es =>
    simp only [modify, without, mapEntries, touch, setTime, mapStamp, Entries.erase_update]

theorem without_modify_self (now : Int) (name : Name) (f : Node → Node) (rest : Path) (d : Node) :
    without now name (modify f (name :: rest) d) = without now name d := by
  cases d with
  | file s data => rfl
  | directory s es =>
    simp only [modify, without, mapEntries, Entries.erase_update_self]

section

variable {now : Int} {p q : Path} {root : Node} {name : Name}

@[simp] theorem prune_nil : prune now [] root = root := rfl

theorem prune_of_missing (h : root.entry p = none) : prune now p root = root := by
  unfold prune
  split
  · rfl
  · rw [h]
    rfl

theorem prune_of_there (h : root.entry (p ++ [name]) ≠ none) :
    prune now (p ++ [name]) root = modify (without now name) p root := by
  rw [prune, List.getLast?_concat, List.dropLast_concat]
  exact if_pos (Option.isSome_iff_ne_none.mpr h)

theorem entry_of_missing (h : root.entry p = none) (hpq : p <+: q) : root.entry q = none := by
  obtain ⟨r, rfl⟩ := hpq
  have hat : root.at? p = none := by simpa [entry] using h
  rw [entry_append, hat]
  rfl

theorem entry_prune (now : Int) (p q : Path) (root : Node) :
    (prune now p root).entry q = if p ≠ [] ∧ p <+: q then none else root.entry q := by
  rcases List.eq_nil_or_concat p with rfl | ⟨above, name, rfl⟩
  · simp
  · rw [List.concat_eq_append]
    have hne : above ++ [name] ≠ [] := by simp
    simp only [hne, ne_eq, not_false_eq_true, true_and]
    by_cases hthere : root.entry (above ++ [name]) = none
    · rw [prune_of_missing hthere]
      split
      · exact entry_of_missing hthere ‹_›
      · rfl
    · obtain ⟨child, hchild⟩ := Option.ne_none_iff_exists'.mp hthere
      obtain ⟨node, hnode, -⟩ := entry_eq_some.mp hchild
      obtain ⟨s, es, hw⟩ := exists_directory_of_walk_append hnode
      rw [prune_of_there hthere]
      exact entry_erase hw name now q

theorem entry_prune_beside (h : ¬ p <+: q) : (prune now p root).entry q = root.entry q := by
  rw [entry_prune, if_neg fun hpq => h hpq.2]

theorem entry_prune_below (hp : p ≠ []) (h : p <+: q) : (prune now p root).entry q = none := by
  rw [entry_prune, if_pos ⟨hp, h⟩]

theorem prune_prune_below (hp : p ≠ []) (hpq : p <+: q) :
    prune now p (prune now q root) = prune now p root := by
  by_cases hq : root.entry q = none
  · rw [prune_of_missing hq]
  obtain ⟨r, rfl⟩ := hpq
  rcases List.eq_nil_or_concat r with rfl | ⟨r, last, rfl⟩
  · rw [List.append_nil]
    exact prune_of_missing (entry_prune_below hp (List.prefix_refl p))
  obtain ⟨above, name, rfl⟩ : ∃ above name, p = above ++ [name] :=
    ⟨p.dropLast, p.getLast hp, (List.dropLast_append_getLast hp).symm⟩
  have hsplit : above ++ [name] ++ r.concat last = above ++ name :: r ++ [last] := by simp
  rw [hsplit] at hq ⊢
  have hthere : root.entry (above ++ [name]) ≠ none := fun h =>
    hq (entry_of_missing h ⟨r ++ [last], by simp⟩)
  have hlonger : ¬ above ++ name :: r ++ [last] <+: above ++ [name] := fun h =>
    absurd h.length_le (by simp)
  rw [prune_of_there (by rwa [entry_prune_beside hlonger]), prune_of_there hthere,
    prune_of_there hq, modify_append (without now last), modify_modify]
  exact congrArg (modify · above root) (funext fun d => without_modify_self now name _ r d)

theorem without_comm_of_parts (now : Int) {m n : Name} (hmn : m ≠ n) (p q : Path) (a b : Name)
    (hp : p = [] ∧ a = m ∨ ∃ rest, p = m :: rest) (hq : q = [] ∧ b = n ∨ ∃ rest, q = n :: rest)
    (d : Node) :
    modify (without now a) p (modify (without now b) q d) =
      modify (without now b) q (modify (without now a) p d) := by
  rcases hp with ⟨rfl, rfl⟩ | ⟨p, rfl⟩
  · rcases hq with ⟨rfl, rfl⟩ | ⟨q, rfl⟩
    · exact without_comm now a b d
    · exact without_modify_comm now a n _ q d
  · rcases hq with ⟨rfl, rfl⟩ | ⟨q, rfl⟩
    · exact (without_modify_comm now b m _ p d).symm
    · cases d with
      | file s data => rfl
      | directory s es =>
        rw [modify, modify, modify, modify, Entries.update_comm es hmn]

theorem exists_last (name : Name) (rest : Path) :
    ∃ p last, name :: rest = p ++ [last] ∧ (p = [] ∧ last = name ∨ ∃ rest, p = name :: rest) := by
  rcases List.eq_nil_or_concat rest with rfl | ⟨rest, last, rfl⟩
  · exact ⟨[], name, rfl, .inl ⟨rfl, rfl⟩⟩
  · exact ⟨name :: rest, last, by simp, .inr ⟨rest, rfl⟩⟩

theorem prune_comm (now : Int) (p q : Path) (root : Node) :
    prune now p (prune now q root) = prune now q (prune now p root) := by
  by_cases hp : p = []
  · rw [hp, prune_nil, prune_nil]
  by_cases hq : q = []
  · rw [hq, prune_nil, prune_nil]
  rcases Path.parts p q with hpq | hqp | ⟨above, m, n, p', q', hmn, rfl, rfl⟩
  · rw [prune_prune_below hp hpq, prune_of_missing (entry_prune_below hp hpq)]
  · rw [prune_prune_below hq hqp, prune_of_missing (entry_prune_below hq hqp)]
  obtain ⟨p, a, hpa, hends⟩ := exists_last m p'
  obtain ⟨q, b, hqb, hends'⟩ := exists_last n q'
  have hbeside : ¬ above ++ m :: p' <+: above ++ n :: q' := fun h =>
    hmn (List.cons_prefix_cons.mp ((List.prefix_append_right_inj above).mp h)).1
  have hbeside' : ¬ above ++ n :: q' <+: above ++ m :: p' := fun h =>
    hmn (List.cons_prefix_cons.mp ((List.prefix_append_right_inj above).mp h)).1.symm
  by_cases hmiss : root.entry (above ++ m :: p') = none
  · rw [prune_of_missing hmiss,
      prune_of_missing ((entry_prune_beside hbeside').trans hmiss)]
  by_cases hmiss' : root.entry (above ++ n :: q') = none
  · rw [prune_of_missing hmiss',
      prune_of_missing ((entry_prune_beside hbeside).trans hmiss')]
  -- both are there, and taking out one leaves the other where it is
  have hkept : (prune now (above ++ n :: q') root).entry (above ++ m :: p') ≠ none :=
    (entry_prune_beside hbeside').trans_ne hmiss
  have hkept' : (prune now (above ++ m :: p') root).entry (above ++ n :: q') ≠ none :=
    (entry_prune_beside hbeside).trans_ne hmiss'
  rw [hpa, ← List.append_assoc] at hmiss hkept hkept' ⊢
  rw [hqb, ← List.append_assoc] at hmiss' hkept hkept' ⊢
  rw [prune_of_there hkept, prune_of_there hkept', prune_of_there hmiss, prune_of_there hmiss']
  exact modify_comm_of_below _ _ above p q
    (without_comm_of_parts now hmn p q a b hends hends') root

@[simp] theorem pruneAll_nil (now : Int) (root : Node) : pruneAll now [] root = root := rfl

@[simp] theorem pruneAll_cons (now : Int) (p : Path) (ps : List Path) (root : Node) :
    pruneAll now (p :: ps) root = pruneAll now ps (prune now p root) := rfl

theorem entry_pruneAll (now : Int) (ps : List Path) (q : Path) (root : Node) :
    (pruneAll now ps root).entry q =
      if ∃ p ∈ ps, p ≠ [] ∧ p <+: q then none else root.entry q := by
  induction ps generalizing root with
  | nil => simp
  | cons p ps ih =>
    rw [pruneAll_cons, ih, entry_prune]
    by_cases hlater : ∃ p ∈ ps, p ≠ [] ∧ p <+: q
    · simp [hlater]
    · by_cases hfirst : p ≠ [] ∧ p <+: q
      · simp [hfirst]
      · rw [if_neg hlater, if_neg hfirst, if_neg]
        rintro ⟨p', hmem, hp'⟩
        rcases List.mem_cons.mp hmem with rfl | hmem
        · exact hfirst hp'
        · exact hlater ⟨p', hmem, hp'⟩

theorem pruneAll_perm (now : Int) {ps qs : List Path} (h : ps.Perm qs) (root : Node) :
    pruneAll now ps root = pruneAll now qs root :=
  h.foldl_eq' (fun p _ q _ root => prune_comm now q p root) root

theorem pruneAll_of_missing {ps : List Path} (h : ∀ p ∈ ps, root.entry p = none) :
    pruneAll now ps root = root := by
  induction ps with
  | nil => rfl
  | cons p ps ih =>
    rw [pruneAll_cons, prune_of_missing (h p List.mem_cons_self)]
    exact ih fun p hp => h p (List.mem_cons_of_mem _ hp)

end

end Node

end MemoryShell
