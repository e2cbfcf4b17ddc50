import MemoryShell.Proofs.Tree.Bare
import MemoryShell.Proofs.Tree.Nodes
import MemoryShell.Proofs.Volume.PathMap

set_option autoImplicit false

namespace MemoryShell.Node

def toEntry : Node → FlatEntry
  | .file s data => .file s.mode data
  | .directory s _ => .directory s.mode

def entry (node : Node) (p : Path) : Option FlatEntry :=
  (node.at? p).map toEntry

theorem entry_of_walk {node child : Node} {p : Path} (h : node.walk p = .ok child) :
    node.entry p = some child.toEntry := by
  rw [entry, at?_eq_some.mpr h, Option.map_some]

theorem entry_eq_some {node : Node} {p : Path} {e : FlatEntry} :
    node.entry p = some e ↔ ∃ child, node.walk p = .ok child ∧ child.toEntry = e := by
  simp [entry, at?_eq_some]

theorem entry_eq_none {node : Node} {p : Path} :
    node.entry p = none ↔ ∃ e, node.walk p = .error e := by
  unfold entry at?
  cases node.walk p <;> simp [Except.toOption]

theorem entry_eq_directory {node : Node} {p : Path} {mode : Nat} :
    node.entry p = some (.directory mode) ↔
      ∃ s es, node.walk p = .ok (.directory s es) ∧ s.mode = mode := by
  rw [entry_eq_some]
  constructor
  · rintro ⟨child, hw, he⟩
    cases child with
    | file s data => cases he
    | directory s es => exact ⟨s, es, hw, FlatEntry.directory.inj he⟩
  · rintro ⟨s, es, hw, rfl⟩
    exact ⟨_, hw, rfl⟩

@[simp] theorem entry_nil (node : Node) : node.entry [] = some node.toEntry :=
  entry_of_walk (walk_nil node)

theorem entry_directory_cons (s : Stamp) (es : Entries) (name : Name) (rest : Path) :
    (directory s es).entry (name :: rest) =
      (Entries.find? es name).bind fun child => child.entry rest := by
  unfold entry at?
  rw [walk_directory_cons]
  cases Entries.find? es name <;> rfl

theorem entry_append (node : Node) (p q : Path) :
    node.entry (p ++ q) = (node.at? p).bind fun child => child.entry q := by
  rw [entry, at?_append]
  cases node.at? p <;> rfl

theorem exists_directory_of_entry {node : Node} {p : Path} {name : Name} {q : Path}
    (h : (node.entry (p ++ name :: q)).isSome = true) :
    ∃ mode, node.entry p = some (.directory mode) := by
  obtain ⟨e, he⟩ := Option.isSome_iff_exists.mp h
  obtain ⟨child, hw, -⟩ := entry_eq_some.mp he
  obtain ⟨s, es, hp⟩ := exists_directory_of_walk_append hw
  exact ⟨s.mode, entry_of_walk hp⟩

theorem any_isFile_inits (node : Node) (p : Path) :
    (p.inits.any fun q => (node.at? q).any fun child => !child.isDirectory) =
      match node.walk p with
      | .ok child => !child.isDirectory
      | .error e => e = .notDirectory := by
  induction p generalizing node with
  | nil => simp [at?, Except.toOption]
  | cons name rest ih =>
    cases node with
    | file s data =>
      simp [List.inits, at?, Except.toOption, walk_file_cons, isDirectory]
    | directory s es =>
      rw [walk_directory_cons]
      cases hf : Entries.find? es name with
      | none =>
        simp [List.inits, at?, Except.toOption, walk_directory_cons, hf, isDirectory,
          Function.comp_def]
      | some child =>
        simpa [List.inits, at?, Except.toOption, walk_directory_cons, hf, isDirectory,
          Function.comp_def] using ih child

theorem entry_eq_bareAt (node : Node) (p : Path) : node.entry p = (node.bareAt p).map toEntry := by
  have hbare : toEntry ∘ bare = toEntry := funext fun child => by cases child <;> rfl
  rw [entry, bareAt, Option.map_map, hbare]

theorem entry_modify_beside (f : Node → Node) {p q : Path} (h : ¬ p <+: q) (node : Node) :
    (modify f p node).entry q = node.entry q := by
  rw [entry_eq_bareAt, bareAt_modify_beside f h, entry_eq_bareAt]

theorem entry_modify_append (f : Node → Node) (p q : Path) (node : Node) :
    (modify f p node).entry (p ++ q) = (node.at? p).bind fun child => (f child).entry q := by
  unfold entry at?
  rw [walk_modify_append]
  cases node.walk p <;> rfl

theorem entry_modify {f : Node → Node} {g : FlatEntry → FlatEntry} {p q : Path} {node : Node}
    (hf : ∀ child, (f child).toEntry = g child.toEntry)
    (hbare : (modify f p node).bareAt q =
      if q = p then (node.bareAt q).map f else node.bareAt q) :
    (modify f p node).entry q = if q = p then (node.entry q).map g else node.entry q := by
  rw [entry_eq_bareAt, hbare, entry_eq_bareAt]
  split
  · have hcomp : toEntry ∘ f = g ∘ toEntry := funext hf
    rw [Option.map_map, Option.map_map, hcomp]
  · rfl

theorem entry_setTime (t : Json) (p q : Path) (node : Node) :
    (modify (setTime t) p node).entry q = node.entry q := by
  refine (entry_modify (g := id) (fun child => ?_) (bareAt_mapStamp _ p q node)).trans ?_
  · cases child <;> rfl
  · simp

theorem entry_setMode (m : Nat) (p q : Path) (node : Node) :
    (modify (mapStamp fun s => { s with mode := m }) p node).entry q =
      if q = p then (node.entry q).map (.withMode m) else node.entry q :=
  entry_modify (fun child => by cases child <;> rfl) (bareAt_mapStamp _ p q node)

theorem entry_setData (g : Bytes → Bytes) (now : Int) (p q : Path) (node : Node) :
    (modify (fun node => (node.setData g).touch now) p node).entry q =
      if q = p then (node.entry q).map (.mapData g) else node.entry q :=
  entry_modify (fun child => by cases child <;> rfl) (bareAt_setData g now p q node)

variable {node : Node} {p : Path} {s : Stamp} {es : Entries}

theorem entry_insert (hw : node.walk p = .ok (.directory s es)) {name : Name}
    (hfree : Entries.find? es name = none) {new : Node}
    (hnew : ∀ n rest, new.entry (n :: rest) = none) (now : Int) (q : Path) :
    (modify (fun d => (d.mapEntries (Entries.insert · name new)).touch now) p node).entry q =
      if q = p ++ [name] then some new.toEntry else node.entry q := by
  by_cases hpq : p <+: q
  · obtain ⟨r, rfl⟩ := hpq
    rw [entry_modify_append, entry_append, at?_eq_some.mpr hw]
    simp only [Option.bind_some, mapEntries, touch, setTime, mapStamp]
    cases r with
    | nil => simp [toEntry]
    | cons n rest =>
      rw [entry_directory_cons, entry_directory_cons]
      by_cases hn : name = n
      · subst hn
        rw [Entries.find?_insert_self, hfree]
        cases rest with
        | nil => simp
        | cons m rest => simp [hnew]
      · rw [Entries.find?_insert_of_ne es new hn]
        simp [Ne.symm hn]
  · have hne : q ≠ p ++ [name] := by
      rintro rfl
      exact hpq (List.prefix_append p [name])
    rw [entry_modify_beside _ hpq, if_neg hne]

theorem entry_erase (hw : node.walk p = .ok (.directory s es)) (name : Name) (now : Int)
    (q : Path) :
    (modify (fun d => (d.mapEntries (Entries.erase · name)).touch now) p node).entry q =
      if p ++ [name] <+: q then none else node.entry q := by
  by_cases hpq : p <+: q
  · obtain ⟨r, rfl⟩ := hpq
    rw [entry_modify_append, entry_append, at?_eq_some.mpr hw]
    simp only [List.prefix_append_right_inj, Option.bind_some, mapEntries, touch, setTime, mapStamp]
    cases r with
    | nil => simp [toEntry]
    | cons n rest =>
      rw [entry_directory_cons, entry_directory_cons]
      by_cases hn : name = n
      · subst hn
        rw [Entries.find?_erase_self]
        simp [List.cons_prefix_cons]
      · rw [Entries.find?_erase_of_ne es hn]
        simp [List.cons_prefix_cons, hn]
  · have hne : ¬ p ++ [name] <+: q := fun h => hpq ((List.prefix_append p [name]).trans h)
    rw [entry_modify_beside _ hpq, if_neg hne]

end MemoryShell.Node
