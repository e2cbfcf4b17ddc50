import MemoryShell.Proofs.Tree.Walk

set_option autoImplicit false

namespace MemoryShell.Node

def bare : Node → Node
  | .file s data => .file s data
  | .directory s _ => .directory s []

def bareAt (node : Node) (p : Path) : Option Node :=
  (node.at? p).map bare

@[simp] theorem stamp_bare (node : Node) : node.bare.stamp = node.stamp := by
  cases node <;> rfl

@[simp] theorem isDirectory_bare (node : Node) : node.bare.isDirectory = node.isDirectory := by
  cases node <;> rfl

theorem bareAt_of_walk {node child : Node} {p : Path} (h : node.walk p = .ok child) :
    node.bareAt p = some child.bare := by
  rw [bareAt, at?_eq_some.mpr h, Option.map_some]

theorem bareAt_eq_some {node : Node} {p : Path} {x : Node} :
    node.bareAt p = some x ↔ ∃ child, node.walk p = .ok child ∧ child.bare = x := by
  simp [bareAt, at?_eq_some]

theorem isSome_bareAt (node : Node) (p : Path) :
    (node.bareAt p).isSome = (node.at? p).isSome :=
  Option.isSome_map

@[simp] theorem bareAt_nil (node : Node) : node.bareAt [] = some node.bare :=
  bareAt_of_walk (walk_nil node)

theorem bareAt_append (node : Node) (p q : Path) :
    node.bareAt (p ++ q) = (node.at? p).bind fun child => child.bareAt q := by
  rw [bareAt, at?_append]
  cases node.at? p <;> rfl

theorem bareAt_directory_cons (s : Stamp) (es : Entries) (name : Name) (rest : Path) :
    (directory s es).bareAt (name :: rest) =
      (Entries.find? es name).bind fun child => child.bareAt rest := by
  unfold bareAt at?
  rw [walk_directory_cons]
  cases Entries.find? es name <;> rfl

theorem bareAt_modify_beside (f : Node → Node) {p q : Path} (h : ¬ p <+: q) (node : Node) :
    (modify f p node).bareAt q = node.bareAt q := by
  rcases Path.parts p q with hpq | ⟨r, rfl⟩ | ⟨above, m, n, p', q', hmn, rfl, rfl⟩
  · exact absurd hpq h
  · have hr : r ≠ [] := by
      rintro rfl
      exact h (by simp)
    obtain ⟨name, r, rfl⟩ := List.exists_cons_of_ne_nil hr
    unfold bareAt at?
    rw [walk_modify_above]
    cases node.walk q with
    | error e => rfl
    | ok child => cases child <;> rfl
  · unfold bareAt at?
    rw [walk_modify_aside f above hmn]

theorem bareAt_modify_append (f : Node → Node) (p q : Path) (node : Node) :
    (modify f p node).bareAt (p ++ q) = (node.at? p).bind fun child => (f child).bareAt q := by
  unfold bareAt at?
  rw [walk_modify_append]
  cases node.walk p <;> rfl

theorem bareAt_modify {f : Node → Node} (hf : ∀ node, (f node).bare = f node.bare)
    (hbelow : ∀ node name rest, (f node).bareAt (name :: rest) = node.bareAt (name :: rest))
    (p q : Path) (node : Node) :
    (modify f p node).bareAt q = if q = p then (node.bareAt q).map f else node.bareAt q := by
  by_cases hpq : p <+: q
  · obtain ⟨r, rfl⟩ := hpq
    rw [bareAt_modify_append, bareAt_append]
    cases r with
    | nil => cases node.at? p <;> simp [hf]
    | cons name rest => simp [hbelow]
  · have hne : q ≠ p := by
      rintro rfl
      exact hpq (List.prefix_refl q)
    rw [bareAt_modify_beside f hpq, if_neg hne]

theorem bareAt_mapStamp (g : Stamp → Stamp) (p q : Path) (node : Node) :
    (modify (mapStamp g) p node).bareAt q =
      if q = p then (node.bareAt q).map (mapStamp g) else node.bareAt q := by
  refine bareAt_modify ?_ ?_ p q node
  · intro child
    cases child <;> rfl
  · intro child name rest
    cases child with
    | file s data => rfl
    | directory s es => exact (bareAt_directory_cons _ _ _ _).trans (bareAt_directory_cons ..).symm

theorem bareAt_setData (g : Bytes → Bytes) (now : Int) (p q : Path) (node : Node) :
    (modify (fun node => (node.setData g).touch now) p node).bareAt q =
      if q = p then (node.bareAt q).map fun node => (node.setData g).touch now
      else node.bareAt q := by
  refine bareAt_modify ?_ ?_ p q node
  · intro child
    cases child <;> rfl
  · intro child name rest
    cases child with
    | file s data => rfl
    | directory s es => exact (bareAt_directory_cons _ _ _ _).trans (bareAt_directory_cons ..).symm

theorem bareAt_touch {node : Node} {p : Path} {s : Stamp} {es : Entries}
    (hw : node.walk p = .ok (.directory s es)) (g : Entries → Entries) (now : Int) {q : Path}
    (h : ∀ name, ¬ p ++ [name] <+: q ∨ Entries.find? (g es) name = Entries.find? es name) :
    (modify (fun d => (d.mapEntries g).touch now) p node).bareAt q =
      if q = p then (node.bareAt q).map (touch now) else node.bareAt q := by
  by_cases hpq : p <+: q
  · obtain ⟨r, rfl⟩ := hpq
    rw [bareAt_modify_append, bareAt_append, at?_eq_some.mpr hw]
    simp only [Option.bind_some, mapEntries, touch, setTime, mapStamp]
    cases r with
    | nil => simp [bare, mapStamp]
    | cons name rest =>
      have hsame : Entries.find? (g es) name = Entries.find? es name :=
        (h name).resolve_left fun hnot => hnot (by simp)
      rw [bareAt_directory_cons, bareAt_directory_cons, hsame, if_neg (by simp)]
  · have hne : q ≠ p := by
      rintro rfl
      exact hpq (List.prefix_refl q)
    rw [bareAt_modify_beside _ hpq, if_neg hne]

end MemoryShell.Node
