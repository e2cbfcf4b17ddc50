import MemoryShell.Proofs.Tree.Everywhere

set_option autoImplicit false

namespace MemoryShell.Node

theorem mem_entryNodes_iff {es : Entries} {p : Path} {node : Node} :
    (p, node) ∈ entryNodes es ↔
      ∃ name child q, (name, child) ∈ es ∧ (q, node) ∈ child.nodes ∧ p = name :: q := by
  induction es with
  | nil => simp [entryNodes]
  | cons e es ih =>
    obtain ⟨n, x⟩ := e
    rw [entryNodes, List.mem_append, List.mem_map, ih]
    constructor
    · rintro (⟨⟨q, c⟩, hmem, heq⟩ | ⟨name, child, q, hmem, hq, rfl⟩)
      · obtain ⟨rfl, rfl⟩ := Prod.mk.inj heq
        exact ⟨n, x, q, List.mem_cons_self, hmem, rfl⟩
      · exact ⟨name, child, q, List.mem_cons_of_mem _ hmem, hq, rfl⟩
    · rintro ⟨name, child, q, hmem, hq, rfl⟩
      rcases List.mem_cons.mp hmem with heq | hmem
      · obtain ⟨rfl, rfl⟩ := Prod.mk.inj heq
        exact .inl ⟨(q, node), hq, rfl⟩
      · exact .inr ⟨name, child, q, hmem, hq, rfl⟩

theorem mem_nodes_self (node : Node) : ([], node) ∈ node.nodes := by
  cases node <;> simp [nodes]

theorem mem_nodes_of_walk {node child : Node} {p : Path} (h : node.walk p = .ok child) :
    (p, child) ∈ node.nodes := by
  induction p generalizing node with
  | nil =>
    rw [walk_nil] at h
    exact Except.ok.inj h ▸ mem_nodes_self node
  | cons name rest ih =>
    cases node with
    | file s data => simp [walk_file_cons] at h
    | directory s es =>
      rw [walk_directory_cons] at h
      cases hf : Entries.find? es name with
      | none => simp [hf] at h
      | some next =>
        rw [hf] at h
        rw [nodes]
        exact List.mem_cons_of_mem _
          (mem_entryNodes_iff.mpr
            ⟨name, next, rest, Entries.mem_of_find?_eq_some hf, ih h, rfl⟩)

theorem everywhere_of_nodes {P : Node → Prop} {node : Node} (h : ∀ x ∈ node.nodes, P x.2) :
    Everywhere P node :=
  fun _ _ hw => h _ (mem_nodes_of_walk hw)

theorem eq_of_nil_mem_nodes {node child : Node} (h : ([], child) ∈ node.nodes) : child = node := by
  cases node with
  | file s data =>
    simp only [nodes, List.mem_singleton, Prod.mk.injEq, true_and] at h
    exact h
  | directory s es =>
    rw [nodes] at h
    rcases List.mem_cons.mp h with heq | hmem
    · exact (Prod.mk.inj heq).2
    · obtain ⟨name, next, q, -, -, hq⟩ := mem_entryNodes_iff.mp hmem
      cases hq

theorem walk_of_mem_nodes {node child : Node} {p : Path} (ho : Everywhere InOrder node)
    (h : (p, child) ∈ node.nodes) : node.walk p = .ok child := by
  induction p generalizing node with
  | nil => rw [walk_nil, eq_of_nil_mem_nodes h]
  | cons name rest ih =>
    cases node with
    | file s data => simp [nodes] at h
    | directory s es =>
      rw [nodes] at h
      rcases List.mem_cons.mp h with heq | hmem
      · cases (Prod.mk.inj heq).1
      · obtain ⟨n, next, q, hes, hq, heq⟩ := mem_entryNodes_iff.mp hmem
        obtain ⟨rfl, rfl⟩ := List.cons.inj heq
        obtain ⟨hroot, hbelow⟩ := everywhere_directory.mp ho
        have hf : Entries.find? es name = some next :=
          Entries.find?_of_mem (Entries.Sorted.nodup hroot) hes
        rw [walk_directory_cons, hf]
        exact ih (hbelow name next hf) hq

end MemoryShell.Node
