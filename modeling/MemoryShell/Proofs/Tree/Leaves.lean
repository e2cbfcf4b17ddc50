import Mathlib.Data.List.Forall2
import Mathlib.Data.List.Nodup
import MemoryShell.Proofs.Tree.Nodes

set_option autoImplicit false

namespace MemoryShell

/-- What a node is, with the octets of a file. -/
inductive Shape
  | directory
  | file (data : Bytes)
  deriving DecidableEq

namespace Node

def shape : Node → Shape
  | .file _ data => .file data
  | .directory _ _ => .directory

def content (node : Node) (p : Path) : Option Shape :=
  (node.at? p).map shape

/-- The same paths exist, with the same kinds and the same octets. -/
def SameContent (a b : Node) : Prop :=
  ∀ p, a.content p = b.content p

def leaf? : Node → Option Shape
  | .file _ data => some (.file data)
  | .directory _ [] => some .directory
  | .directory _ (_ :: _) => none

def leaves (node : Node) : List (Path × Shape) :=
  node.nodes.filterMap fun e => e.2.leaf?.map fun s => (e.1, s)

@[elab_as_elim]
theorem induct {P : Node → Prop} (file : ∀ s data, P (.file s data))
    (directory : ∀ s es, (∀ e ∈ es, P e.2) → P (.directory s es)) (node : Node) : P node :=
  nodes.induct P (fun es => ∀ e ∈ es, P e.2) file directory (fun e he => nomatch he)
    (fun name child es hchild hes e he => by
      rcases List.mem_cons.mp he with rfl | he
      · exact hchild
      · exact hes e he) node

theorem content_of_walk {node child : Node} {p : Path} (h : node.walk p = .ok child) :
    node.content p = some child.shape := by
  rw [content, at?, h]
  rfl

theorem content_eq_some {node : Node} {p : Path} {s : Shape} :
    node.content p = some s ↔ ∃ child, node.walk p = .ok child ∧ child.shape = s := by
  unfold content at?
  cases node.walk p <;> simp [Except.toOption]

@[simp] theorem content_nil (node : Node) : node.content [] = some node.shape :=
  content_of_walk (walk_nil node)

theorem content_directory_cons (s : Stamp) (es : Entries) (name : Name) (rest : Path) :
    (directory s es).content (name :: rest) =
      (Entries.find? es name).bind fun child => child.content rest := by
  unfold content at?
  rw [walk_directory_cons]
  cases Entries.find? es name <;> rfl

theorem SameContent.rel_find? {s t : Stamp} {es fs : Entries}
    (h : SameContent (.directory s es) (.directory t fs)) (name : Name) :
    Option.Rel SameContent (Entries.find? es name) (Entries.find? fs name) := by
  have hbelow : ∀ rest, ((Entries.find? es name).bind fun child => child.content rest) =
      (Entries.find? fs name).bind fun child => child.content rest := by
    intro rest
    rw [← content_directory_cons s, ← content_directory_cons t, h]
  have hhere := hbelow []
  cases hes : Entries.find? es name with
  | none =>
    cases hfs : Entries.find? fs name with
    | none => exact .none
    | some y => simp [hes, hfs] at hhere
  | some x =>
    cases hfs : Entries.find? fs name with
    | none => simp [hes, hfs] at hhere
    | some y => exact .some fun rest => by simpa [hes, hfs] using hbelow rest

theorem entryNodes_eq_flatMap (es : Entries) :
    entryNodes es = es.flatMap fun e => e.2.nodes.map fun p => (e.1 :: p.1, p.2) := by
  induction es with
  | nil => rfl
  | cons e es ih => rw [entryNodes, ih, List.flatMap_cons]

theorem leaves_file (s : Stamp) (data : Bytes) :
    leaves (.file s data) = [([], .file data)] := rfl

theorem leaves_directory (s : Stamp) (es : Entries) :
    leaves (.directory s es) =
      (if es = [] then [([], .directory)] else []) ++
        es.flatMap fun e => e.2.leaves.map fun l => (e.1 :: l.1, l.2) := by
  have hbelow : (entryNodes es).filterMap (fun e => e.2.leaf?.map fun s => (e.1, s)) =
      es.flatMap fun e => e.2.leaves.map fun l => (e.1 :: l.1, l.2) := by
    rw [entryNodes_eq_flatMap, List.filterMap_flatMap]
    refine List.flatMap_congr fun e _ => ?_
    rw [List.filterMap_map, leaves, List.map_filterMap]
    refine List.filterMap_congr fun p _ => ?_
    cases hl : p.2.leaf? <;> simp [hl]
  rw [leaves, nodes]
  cases es with
  | nil => rfl
  | cons e es =>
    rw [if_neg (List.cons_ne_nil e es), List.nil_append, ← hbelow]
    rfl

theorem flatMap_congr_of_forall₂ {α β γ : Type} {R : α → β → Prop} {f : α → List γ}
    {g : β → List γ} {xs : List α} {ys : List β} (h : List.Forall₂ R xs ys)
    (hfg : ∀ x ∈ xs, ∀ y ∈ ys, R x y → f x = g y) : xs.flatMap f = ys.flatMap g := by
  induction h with
  | nil => rfl
  | cons hxy hrest ih =>
    have hhead := hfg _ List.mem_cons_self _ List.mem_cons_self hxy
    have htail := ih fun x hx y hy =>
      hfg x (List.mem_cons_of_mem _ hx) y (List.mem_cons_of_mem _ hy)
    rw [List.flatMap_cons, List.flatMap_cons, hhead, htail]

theorem SameContent.leaves_eq {a b : Node} (ha : Everywhere InOrder a) (hb : Everywhere InOrder b)
    (h : SameContent a b) : a.leaves = b.leaves := by
  induction a using Node.induct generalizing b with
  | file s data =>
    have hroot := h []
    cases b with
    | file t other =>
      rw [content_nil, content_nil] at hroot
      rw [leaves_file, leaves_file, Shape.file.inj (Option.some.inj hroot)]
    | directory t fs => simp [shape] at hroot
  | directory s es ih =>
    cases b with
    | file t other =>
      have hroot := h []
      simp [shape] at hroot
    | directory t fs =>
      obtain ⟨hes, hbelow⟩ := everywhere_directory.mp ha
      obtain ⟨hfs, hbelow'⟩ := everywhere_directory.mp hb
      have hall := Entries.forall₂_of_find? hes hfs h.rel_find?
      have hempty : es = [] ↔ fs = [] := by
        cases hall <;> simp
      have hleaf : ∀ e ∈ es, ∀ f ∈ fs, e.1 = f.1 ∧ SameContent e.2 f.2 →
          (e.2.leaves.map fun l => (e.1 :: l.1, l.2)) =
            f.2.leaves.map fun l => (f.1 :: l.1, l.2) := by
        rintro e he f hf ⟨hname, hsame⟩
        have hechild := hbelow e.1 e.2 (Entries.find?_of_mem (Entries.Sorted.nodup hes) he)
        have hfchild := hbelow' f.1 f.2 (Entries.find?_of_mem (Entries.Sorted.nodup hfs) hf)
        rw [hname, ih e he hechild hfchild hsame]
      rw [leaves_directory, leaves_directory, flatMap_congr_of_forall₂ hall hleaf]
      simp only [hempty]

theorem mem_leaves {node : Node} (ho : Everywhere InOrder node) {p : Path} {s : Shape} :
    (p, s) ∈ node.leaves ↔ ∃ child, node.walk p = .ok child ∧ child.leaf? = some s := by
  rw [leaves, List.mem_filterMap]
  constructor
  · rintro ⟨⟨q, child⟩, hmem, heq⟩
    obtain ⟨t, ht, hpair⟩ := Option.map_eq_some_iff.mp heq
    obtain ⟨rfl, rfl⟩ := Prod.mk.inj hpair
    exact ⟨child, walk_of_mem_nodes ho hmem, ht⟩
  · rintro ⟨child, hw, hl⟩
    exact ⟨(p, child), mem_nodes_of_walk hw, by rw [hl, Option.map_some]⟩

theorem shape_of_leaf? {node : Node} {s : Shape} (h : node.leaf? = some s) : node.shape = s := by
  rcases node with ⟨t, data⟩ | ⟨t, _ | ⟨e, es⟩⟩
  · exact Option.some.inj h
  · exact Option.some.inj h
  · cases h

theorem content_of_mem_leaves {node : Node} (ho : Everywhere InOrder node) {p : Path} {s : Shape}
    (h : (p, s) ∈ node.leaves) : node.content p = some s := by
  obtain ⟨child, hw, hl⟩ := (mem_leaves ho).mp h
  rw [content_of_walk hw, shape_of_leaf? hl]

theorem leaves_ne_nil (node : Node) : node.leaves ≠ [] := by
  induction node using Node.induct with
  | file s data => simp [leaves_file]
  | directory s es ih =>
    rw [leaves_directory]
    cases es with
    | nil => simp
    | cons e es =>
      have hfirst := ih e List.mem_cons_self
      simp [hfirst]

theorem exists_leaf_append {node child : Node} (ho : Everywhere InOrder node) {p : Path}
    (hw : node.walk p = .ok child) : ∃ q s, (p ++ q, s) ∈ node.leaves := by
  obtain ⟨⟨q, s⟩, hl⟩ := List.exists_mem_of_ne_nil _ (leaves_ne_nil child)
  obtain ⟨leaf, hleaf, hs⟩ := (mem_leaves (ho.below hw)).mp hl
  exact ⟨q, s, (mem_leaves ho).mpr ⟨leaf, by rw [walk_append_ok hw, hleaf], hs⟩⟩

theorem nodup_leaves {node : Node} (ho : Everywhere InOrder node) :
    (node.leaves.map Prod.fst).Nodup := by
  induction node using Node.induct with
  | file s data => exact List.nodup_singleton _
  | directory s es ih =>
    obtain ⟨hes, hbelow⟩ := everywhere_directory.mp ho
    have hbehind : ∀ {e : Name × Node} {p : Path},
        p ∈ (e.2.leaves.map fun l => (e.1 :: l.1, l.2)).map Prod.fst → ∃ q, p = e.1 :: q := by
      intro e p hp
      obtain ⟨l, hl, rfl⟩ := List.mem_map.mp hp
      obtain ⟨k, -, rfl⟩ := List.mem_map.mp hl
      exact ⟨k.1, rfl⟩
    rw [leaves_directory, List.map_append, List.map_flatMap, List.nodup_append, List.nodup_flatMap]
    refine ⟨?_, ⟨fun e he => ?_, ?_⟩, ?_⟩
    · split
      · exact List.nodup_singleton _
      · exact List.nodup_nil
    · have hfound := Entries.find?_of_mem (Entries.Sorted.nodup hes) he
      have hchild := (ih e he (hbelow e.1 e.2 hfound)).map (List.cons_injective (a := e.1))
      rwa [List.map_map] at hchild ⊢
    · refine (List.pairwise_map.mp hes).imp fun hlt p hp hq => ?_
      obtain ⟨r, rfl⟩ := hbehind hp
      obtain ⟨r', heq⟩ := hbehind hq
      exact absurd (List.cons.inj heq).1 (ne_of_lt hlt)
    · intro p hp q hq heq
      subst heq
      obtain ⟨e, -, hbranch⟩ := List.mem_flatMap.mp hq
      obtain ⟨r, rfl⟩ := hbehind hbranch
      split at hp
      · cases List.mem_singleton.mp hp
      · cases hp

end Node

end MemoryShell
