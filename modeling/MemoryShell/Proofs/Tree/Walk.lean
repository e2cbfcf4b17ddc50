import MemoryShell.Proofs.Tree.Entries

set_option autoImplicit false

namespace MemoryShell

namespace Path

theorem parts (p q : Path) :
    p <+: q ∨ q <+: p ∨
      ∃ above m n p' q', m ≠ n ∧ p = above ++ m :: p' ∧ q = above ++ n :: q' := by
  induction p generalizing q with
  | nil => exact .inl List.nil_prefix
  | cons a p ih =>
    cases q with
    | nil => exact .inr (.inl List.nil_prefix)
    | cons b q =>
      by_cases hab : a = b
      · subst hab
        rcases ih q with h | h | ⟨above, m, n, p', q', hmn, rfl, rfl⟩
        · exact .inl (List.cons_prefix_cons.mpr ⟨rfl, h⟩)
        · exact .inr (.inl (List.cons_prefix_cons.mpr ⟨rfl, h⟩))
        · exact .inr (.inr ⟨a :: above, m, n, p', q', hmn, rfl, rfl⟩)
      · exact .inr (.inr ⟨[], a, b, p, q, hab, rfl, rfl⟩)

end Path

namespace Node

@[simp] theorem walk_nil (node : Node) : node.walk [] = .ok node := by
  simp [walk]

theorem walk_directory_cons (s : Stamp) (es : Entries) (name : Name) (rest : Path) :
    (directory s es).walk (name :: rest) =
      match Entries.find? es name with
      | none => .error .noEntry
      | some child => child.walk rest := by
  cases h : Entries.find? es name <;> simp [walk, h]

theorem walk_file_cons (s : Stamp) (data : Bytes) (name : Name) (rest : Path) :
    (file s data).walk (name :: rest) = .error .notDirectory := by
  rw [walk]

theorem walk_append_ok {node child : Node} {p : Path} (h : node.walk p = .ok child) (q : Path) :
    node.walk (p ++ q) = child.walk q := by
  rw [walk_append, h]
  rfl

theorem walk_append_error {node : Node} {p : Path} {e : Errno} (h : node.walk p = .error e)
    (q : Path) : node.walk (p ++ q) = .error e := by
  rw [walk_append, h]
  rfl

theorem exists_directory_of_walk_append {node child : Node} {p : Path} {name : Name} {q : Path}
    (h : node.walk (p ++ name :: q) = .ok child) :
    ∃ s es, node.walk p = .ok (.directory s es) := by
  cases hp : node.walk p with
  | error e =>
    rw [walk_append_error hp] at h
    simp at h
  | ok parent =>
    cases parent with
    | file s data =>
      rw [walk_append_ok hp, walk_file_cons] at h
      simp at h
    | directory s es => exact ⟨s, es, rfl⟩

theorem exists_failure_of_walk_eq_error {node : Node} {p : Path} {e : Errno}
    (h : node.walk p = .error e) :
    ∃ q name rest above, p = q ++ name :: rest ∧ node.walk q = .ok above ∧
      (∀ s es, above = .directory s es → Entries.find? es name = none) ∧
      e = if above.isDirectory then .noEntry else .notDirectory := by
  induction p generalizing node with
  | nil => simp at h
  | cons name rest ih =>
    cases node with
    | file s data =>
      rw [walk_file_cons] at h
      refine ⟨[], name, rest, .file s data, rfl, walk_nil _, by simp, ?_⟩
      simpa [isDirectory] using (Except.error.inj h).symm
    | directory s es =>
      rw [walk_directory_cons] at h
      cases hf : Entries.find? es name with
      | none =>
        rw [hf] at h
        refine ⟨[], name, rest, .directory s es, rfl, walk_nil _, ?_, ?_⟩
        · intro s' es' heq
          obtain ⟨rfl, rfl⟩ := Node.directory.inj heq
          exact hf
        · simpa [isDirectory] using (Except.error.inj h).symm
      | some child =>
        rw [hf] at h
        obtain ⟨q, n, r, above, rfl, hq, hmiss, he⟩ := ih h
        refine ⟨name :: q, n, r, above, rfl, ?_, hmiss, he⟩
        simpa [walk_directory_cons, hf] using hq

theorem walk_modify_append (f : Node → Node) (p q : Path) (node : Node) :
    (modify f p node).walk (p ++ q) = (node.walk p).map f >>= fun child => child.walk q := by
  rw [walk_append, walk_modify_self]

theorem walk_modify_above (f : Node → Node) (p q : Path) (node : Node) :
    (modify f (p ++ q) node).walk p = (node.walk p).map (modify f q) := by
  induction p generalizing node with
  | nil => simp [Except.map]
  | cons name rest ih =>
    cases node with
    | file s data => simp [walk, modify, Except.map]
    | directory s es =>
      cases h : Entries.find? es name with
      | none => simp [walk, modify, Entries.find?_update, h, Except.map]
      | some child => simpa [walk, modify, Entries.find?_update, h] using ih child

theorem walk_modify_aside (f : Node → Node) (p : Path) {m n : Name} (hmn : m ≠ n) (q r : Path)
    (node : Node) : (modify f (p ++ m :: q) node).walk (p ++ n :: r) = node.walk (p ++ n :: r) := by
  rw [walk_append, walk_append, walk_modify_above]
  cases node.walk p with
  | error e => rfl
  | ok child =>
    show (modify f (m :: q) child).walk (n :: r) = child.walk (n :: r)
    cases child with
    | file s data => rfl
    | directory s es =>
      rw [modify, walk_directory_cons, walk_directory_cons, Entries.find?_update, if_neg hmn]

theorem at?_eq_some {node child : Node} {p : Path} :
    node.at? p = some child ↔ node.walk p = .ok child := by
  unfold at?
  cases node.walk p <;> simp [Except.toOption]

theorem at?_append (node : Node) (p q : Path) :
    node.at? (p ++ q) = (node.at? p).bind fun child => child.at? q := by
  unfold at?
  rw [walk_append]
  cases node.walk p <;> rfl

theorem at?_name {node : Node} {p : Path} {s : Stamp} {es : Entries}
    (hw : node.walk p = .ok (.directory s es)) (name : Name) :
    node.at? (p ++ [name]) = Entries.find? es name := by
  rw [at?, walk_append_ok hw, walk_directory_cons]
  cases Entries.find? es name with
  | none => rfl
  | some child => simp [Except.toOption]

end Node

end MemoryShell
