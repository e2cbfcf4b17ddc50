import MemoryShell.Source.Tree

set_option autoImplicit false

namespace MemoryShell.Source.Tree

/-- A form is that of some node of a tree. -/
inductive Holds : Tree → Form → Prop
  | root {role : Role} {form : Form} {parts : List Tree} : Holds (.node role form parts) form
  | part {role : Role} {form g : Form} {parts : List Tree} {t : Tree} (there : t ∈ parts)
      (held : t.Holds g) : Holds (.node role form parts) g

theorem holds_node {role : Role} {form g : Form} {parts : List Tree} :
    (node role form parts).Holds g ↔ g = form ∨ ∃ t ∈ parts, t.Holds g := by
  constructor
  · intro h
    cases h with
    | root => exact .inl rfl
    | part there held => exact .inr ⟨_, there, held⟩
  · rintro (rfl | ⟨t, there, held⟩)
    · exact .root
    · exact .part there held

mutual

def size : Tree → Nat
  | .node _ _ parts => sizeAll parts + 1

def sizeAll : List Tree → Nat
  | [] => 0
  | t :: ts => t.size + sizeAll ts

end

@[simp] theorem sizeAll_append (ts us : List Tree) :
    sizeAll (ts ++ us) = sizeAll ts + sizeAll us := by
  induction ts with
  | nil => simp [sizeAll]
  | cons t ts ih => simp [sizeAll, ih, Nat.add_assoc]

def walk : List Tree → List Form
  | [] => []
  | .node _ form parts :: queue => form :: walk (queue ++ parts)
termination_by queue => sizeAll queue
decreasing_by
  simp only [sizeAll_append, sizeAll, size]
  omega

theorem mem_walk {g : Form} (queue : List Tree) : g ∈ walk queue ↔ ∃ t ∈ queue, t.Holds g := by
  induction queue using walk.induct with
  | case1 => simp [walk]
  | case2 role form parts queue ih =>
    rw [walk, List.mem_cons, ih]
    constructor
    · rintro (rfl | ⟨t, ht, held⟩)
      · exact ⟨_, List.mem_cons_self, .root⟩
      · rcases List.mem_append.mp ht with ht | ht
        · exact ⟨t, List.mem_cons_of_mem _ ht, held⟩
        · exact ⟨_, List.mem_cons_self, .part ht held⟩
    · rintro ⟨t, ht, held⟩
      rcases List.mem_cons.mp ht with rfl | ht
      · rcases holds_node.mp held with rfl | ⟨part, hpart, held⟩
        · exact .inl rfl
        · exact .inr ⟨part, List.mem_append_right _ hpart, held⟩
      · exact .inr ⟨t, List.mem_append_left _ ht, held⟩

theorem walk_append (ts us : List Tree) :
    walk (ts ++ us) = ts.map form ++ walk (us ++ ts.flatMap parts) := by
  induction ts generalizing us with
  | nil => simp
  | cons t ts ih =>
    cases t with
    | node role f ps =>
      rw [List.cons_append, walk, List.append_assoc, ih]
      simp [form, parts]

section

variable {α : Type}

@[simp] theorem nil_beside (ls : List (List α)) : beside [] ls = ls := by
  cases ls <;> rfl

@[simp] theorem beside_nil (ls : List (List α)) : beside ls [] = ls := by
  cases ls <;> rfl

theorem beside_assoc (ks ls ms : List (List α)) :
    beside (beside ks ls) ms = beside ks (beside ls ms) := by
  induction ks generalizing ls ms with
  | nil => simp
  | cons k ks ih =>
    cases ls with
    | nil => simp
    | cons l ls =>
      cases ms with
      | nil => simp
      | cons m ms => simp [beside, ih]

end

theorem levelsAll_append (ts us : List Tree) :
    levelsAll (ts ++ us) = beside (levelsAll ts) (levelsAll us) := by
  induction ts with
  | nil => simp [levelsAll]
  | cons t ts ih => rw [List.cons_append, levelsAll, levelsAll, ih, beside_assoc]

theorem levelsAll_cons (t : Tree) (ts : List Tree) :
    levelsAll (t :: ts) = (t :: ts).map form :: levelsAll ((t :: ts).flatMap parts) := by
  induction ts generalizing t with
  | nil =>
    cases t with
    | node role f ps => simp [levelsAll, levels, form, parts]
  | cons u us ih =>
    cases t with
    | node role f ps =>
      rw [levelsAll, ih, levels, beside, ← levelsAll_append]
      rfl

theorem sizeAll_flatMap_parts (ts : List Tree) :
    sizeAll (ts.flatMap parts) + ts.length = sizeAll ts := by
  induction ts with
  | nil => rfl
  | cons t ts ih =>
    cases t with
    | node role f ps =>
      simp only [List.flatMap_cons, parts, sizeAll_append, List.length_cons, sizeAll, size]
      omega

theorem walk_eq_levelsAll (ts : List Tree) : walk ts = (levelsAll ts).flatten := by
  cases ts with
  | nil => simp [walk, levelsAll]
  | cons t ts =>
    have hwalk := walk_append (t :: ts) []
    rw [List.append_nil, List.nil_append] at hwalk
    rw [levelsAll_cons, List.flatten_cons, hwalk, walk_eq_levelsAll]
termination_by sizeAll ts
decreasing_by
  have := sizeAll_flatMap_parts (t :: ts)
  rw [List.length_cons] at this
  omega

theorem breadthFirst_eq_walk (t : Tree) : t.breadthFirst = walk [t] := by
  rw [walk_eq_levelsAll, levelsAll, levelsAll, beside_nil, breadthFirst]

end MemoryShell.Source.Tree
