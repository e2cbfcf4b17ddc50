import Mathlib.Data.List.Lex
import Mathlib.Data.List.Sort
import Mathlib.Order.Fin.Basic
import MemoryShell.Proofs.Path.Spelling
import MemoryShell.Volume.Node

set_option autoImplicit false

namespace MemoryShell

namespace Text

theorem before_iff_lt {s t : Text} : s.before t = true ↔ s < t := by
  induction s generalizing t with
  | nil => cases t <;> simp [before]
  | cons a s ih =>
    cases t with
    | nil => simp [before]
    | cons b t => simp [before, List.cons_lt_cons_iff, ih, Fin.ext_iff]

end Text

namespace Name

instance linearOrder : LinearOrder Name :=
  LinearOrder.lift' Name.text fun _ _ h => ext_text h

theorem before_iff_lt {a b : Name} : a.before b = true ↔ a < b :=
  Text.before_iff_lt

end Name

namespace Entries

def names (es : Entries) : List Name :=
  es.map Prod.fst

/-- The entries stand in the order of their names, each name once. -/
def Sorted (es : Entries) : Prop :=
  es.names.Pairwise (· < ·)

@[simp] theorem names_nil : names [] = [] := rfl

@[simp] theorem names_cons (e : Name × Node) (es : Entries) :
    names (e :: es) = e.1 :: names es := rfl

theorem sorted_cons {e : Name × Node} {es : Entries} :
    Sorted (e :: es) ↔ (∀ n ∈ es.names, e.1 < n) ∧ Sorted es := by
  simp [Sorted]

theorem Sorted.nodup {es : Entries} (h : Sorted es) : es.names.Nodup :=
  h.imp fun hlt => ne_of_lt hlt

theorem find?_eq_none_iff {es : Entries} {name : Name} :
    find? es name = none ↔ name ∉ es.names := by
  induction es with
  | nil => simp [find?]
  | cons e es ih =>
    obtain ⟨n, x⟩ := e
    by_cases h : n = name
    · simp [find?, h]
    · simp [find?, h, ih, Ne.symm h]

theorem isSome_find?_iff {es : Entries} {name : Name} :
    (find? es name).isSome = true ↔ name ∈ es.names := by
  rw [Option.isSome_iff_ne_none, ne_eq, find?_eq_none_iff, not_not]

theorem mem_of_find?_eq_some {es : Entries} {name : Name} {x : Node}
    (h : find? es name = some x) : (name, x) ∈ es := by
  induction es with
  | nil => simp [find?] at h
  | cons e es ih =>
    obtain ⟨n, y⟩ := e
    by_cases hn : n = name
    · simp only [find?, hn, if_true, Option.some.injEq] at h
      simp [hn, h]
    · simp only [find?, hn, if_false] at h
      exact List.mem_cons_of_mem _ (ih h)

theorem mem_names_of_mem {es : Entries} {name : Name} {x : Node} (h : (name, x) ∈ es) :
    name ∈ es.names :=
  List.mem_map_of_mem h

theorem find?_of_mem {es : Entries} (hs : es.names.Nodup) {name : Name} {x : Node}
    (h : (name, x) ∈ es) : find? es name = some x := by
  induction es with
  | nil => simp at h
  | cons e es ih =>
    obtain ⟨n, y⟩ := e
    rw [names_cons, List.nodup_cons] at hs
    rcases List.mem_cons.mp h with heq | hmem
    · obtain ⟨rfl, rfl⟩ := Prod.mk.inj heq
      simp [find?]
    · have hn : n ≠ name := fun hn => hs.1 (hn ▸ mem_names_of_mem hmem)
      simp [find?, hn, ih hs.2 hmem]

theorem names_update (es : Entries) (name : Name) (f : Node → Node) :
    (update es name f).names = es.names := by
  simp only [names, update, List.map_map]
  refine List.map_congr_left fun e _ => ?_
  by_cases h : e.1 = name <;> simp [h]

theorem Sorted.update {es : Entries} (h : Sorted es) (name : Name) (f : Node → Node) :
    Sorted (update es name f) := by
  rw [Sorted, names_update]
  exact h

theorem mem_names_insert {es : Entries} {name other : Name} {node : Node} :
    other ∈ (insert es name node).names ↔ other = name ∨ other ∈ es.names := by
  rw [← isSome_find?_iff, ← isSome_find?_iff]
  by_cases h : name = other
  · subst h
    simp [find?_insert_self]
  · simp [find?_insert_of_ne es node h, Ne.symm h]

theorem Sorted.insert {es : Entries} (h : Sorted es) (name : Name) (node : Node) :
    Sorted (insert es name node) := by
  induction es with
  | nil => simp [Entries.insert, Sorted]
  | cons e es ih =>
    obtain ⟨n, x⟩ := e
    obtain ⟨hn, hs⟩ := sorted_cons.mp h
    by_cases heq : n = name
    · subst heq
      have hc : Entries.insert ((n, x) :: es) n node = (n, node) :: es := by simp [Entries.insert]
      rw [hc]
      exact sorted_cons.mpr ⟨hn, hs⟩
    · by_cases hb : name.before n
      · have hlt : name < n := Name.before_iff_lt.mp hb
        simp only [Entries.insert, heq, if_false, hb, if_true]
        refine sorted_cons.mpr ⟨fun m hm => ?_, h⟩
        rcases List.mem_cons.mp hm with rfl | hm
        · exact hlt
        · exact hlt.trans (hn m hm)
      · have hlt : n < name :=
          lt_of_le_of_ne (not_lt.mp fun h => hb (Name.before_iff_lt.mpr h)) heq
        simp only [Entries.insert, heq, if_false, hb]
        refine sorted_cons.mpr ⟨fun m hm => ?_, ih hs⟩
        rcases mem_names_insert.mp hm with rfl | hm
        · exact hlt
        · exact hn m hm

theorem names_erase (es : Entries) (name : Name) :
    (erase es name).names = es.names.filter fun n => n ≠ name := by
  simp only [names, erase, List.filter_map, Function.comp_def]

theorem Sorted.erase {es : Entries} (h : Sorted es) (name : Name) : Sorted (erase es name) := by
  rw [Sorted, names_erase]
  exact h.filter _

theorem find?_erase_of_ne (es : Entries) {name other : Name} (hne : name ≠ other) :
    find? (erase es name) other = find? es other := by
  induction es with
  | nil => rfl
  | cons e es ih =>
    obtain ⟨n, x⟩ := e
    by_cases h : n = name
    · subst h
      simpa [erase, find?, hne] using ih
    · have hc : erase ((n, x) :: es) name = (n, x) :: erase es name := by simp [erase, h]
      rw [hc, find?, find?, ih]

theorem mem_names_iff_of_rel {R : Node → Node → Prop} {es fs : Entries} {name : Name}
    (h : Option.Rel R (find? es name) (find? fs name)) : name ∈ es.names ↔ name ∈ fs.names := by
  have hsome : (find? es name).isSome = (find? fs name).isSome := by
    generalize find? es name = a at h
    generalize find? fs name = b at h
    cases h <;> rfl
  rw [← isSome_find?_iff, ← isSome_find?_iff, hsome]

theorem forall₂_of_find? {R : Node → Node → Prop} {es fs : Entries} (hes : Sorted es)
    (hfs : Sorted fs) (h : ∀ name, Option.Rel R (find? es name) (find? fs name)) :
    List.Forall₂ (fun e f => e.1 = f.1 ∧ R e.2 f.2) es fs := by
  induction es generalizing fs with
  | nil =>
    cases fs with
    | nil => exact .nil
    | cons f fs => cases (mem_names_iff_of_rel (h f.1)).mpr List.mem_cons_self
  | cons e es ih =>
    obtain ⟨n, x⟩ := e
    obtain ⟨hn, hes'⟩ := sorted_cons.mp hes
    cases fs with
    | nil => cases (mem_names_iff_of_rel (h n)).mp List.mem_cons_self
    | cons f fs =>
      obtain ⟨m, y⟩ := f
      obtain ⟨hm, hfs'⟩ := sorted_cons.mp hfs
      have hnm : n = m := by
        -- the least name on either side is found on the other one
        rcases List.mem_cons.mp ((mem_names_iff_of_rel (h n)).mp List.mem_cons_self) with h1 | h1
        · exact h1
        · rcases List.mem_cons.mp ((mem_names_iff_of_rel (h m)).mpr List.mem_cons_self) with h2 | h2
          · exact h2.symm
          · exact absurd (hm n h1) (not_lt_of_gt (hn m h2))
      subst hnm
      have hfirst := h n
      simp only [find?, if_true, Option.rel_some_some] at hfirst
      refine .cons ⟨rfl, hfirst⟩ (ih hes' hfs' fun name => ?_)
      by_cases hname : n = name
      · subst hname
        rw [find?_eq_none_iff.mpr fun hmem => lt_irrefl n (hn n hmem),
          find?_eq_none_iff.mpr fun hmem => lt_irrefl n (hm n hmem)]
        exact .none
      · simpa [find?, hname] using h name

end Entries

end MemoryShell
