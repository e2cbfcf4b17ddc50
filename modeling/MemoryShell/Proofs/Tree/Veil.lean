import MemoryShell.Proofs.Tree.Walk
import MemoryShell.Volume.Operation

set_option autoImplicit false

namespace MemoryShell

def Stamp.veil (s : Stamp) (data : Bytes) : Bytes :=
  if s.grants .read then data else List.replicate data.length 0

theorem Stamp.veil_eq_iff {s : Stamp} {a b : Bytes} :
    s.veil a = s.veil b ↔ a.length = b.length ∧ (s.grants .read = true → a = b) := by
  unfold Stamp.veil
  cases hread : s.grants .read with
  | true =>
    simp only [if_true, forall_const]
    exact ⟨fun h => ⟨congrArg _ h, h⟩, fun h => h.2⟩
  | false =>
    simp only [Bool.false_eq_true, if_false, false_implies, and_true]
    constructor
    · intro h
      simpa using congrArg List.length h
    · intro h
      rw [h]

namespace Node

mutual

def veil : Node → Node
  | .file s data => .file s (s.veil data)
  | .directory s es => .directory s (veilEntries es)

def veilEntries : Entries → Entries
  | [] => []
  | (name, child) :: es => (name, child.veil) :: veilEntries es

end

theorem veilEntries_eq_map (es : Entries) : veilEntries es = es.map fun e => (e.1, e.2.veil) := by
  induction es with
  | nil => rw [veilEntries, List.map_nil]
  | cons e es ih =>
    obtain ⟨name, child⟩ := e
    rw [veilEntries, ih, List.map_cons]

theorem veil_file_eq_iff {s t : Stamp} {a b : Bytes} :
    (file s a).veil = (file t b).veil ↔
      s = t ∧ a.length = b.length ∧ (s.grants .read = true → a = b) := by
  rw [veil, veil, Node.file.injEq]
  constructor
  · rintro ⟨rfl, h⟩
    exact ⟨rfl, Stamp.veil_eq_iff.mp h⟩
  · rintro ⟨rfl, h⟩
    exact ⟨rfl, Stamp.veil_eq_iff.mpr h⟩

theorem veil_directory_eq_iff {s t : Stamp} {es fs : Entries} :
    (directory s es).veil = (directory t fs).veil ↔
      s = t ∧ List.Forall₂ (fun e f => e.1 = f.1 ∧ e.2.veil = f.2.veil) es fs := by
  rw [veil, veil, Node.directory.injEq, veilEntries_eq_map, veilEntries_eq_map,
    ← List.forall₂_eq_eq_eq, List.forall₂_map_left_iff, List.forall₂_map_right_iff]
  simp only [Prod.mk.injEq]

theorem veil_cases {x y : Node} (h : x.veil = y.veil) :
    (∃ s a b, x = .file s a ∧ y = .file s b ∧ s.veil a = s.veil b) ∨
      ∃ s es fs, x = .directory s es ∧ y = .directory s fs ∧ veilEntries es = veilEntries fs := by
  cases x with
  | file s a =>
    cases y with
    | file t b =>
      rw [veil, veil] at h
      obtain ⟨rfl, hdata⟩ := Node.file.inj h
      exact .inl ⟨s, a, b, rfl, rfl, hdata⟩
    | directory t fs =>
      rw [veil, veil] at h
      cases h
  | directory s es =>
    cases y with
    | file t b =>
      rw [veil, veil] at h
      cases h
    | directory t fs =>
      rw [veil, veil] at h
      obtain ⟨rfl, hentries⟩ := Node.directory.inj h
      exact .inr ⟨s, es, fs, rfl, rfl, hentries⟩

theorem find?_veilEntries (es : Entries) (name : Name) :
    Entries.find? (veilEntries es) name = (Entries.find? es name).map veil := by
  induction es with
  | nil => rw [veilEntries, Entries.find?, Option.map_none]
  | cons e es ih =>
    obtain ⟨n, x⟩ := e
    rw [veilEntries, Entries.find?, Entries.find?, ih]
    split <;> rfl

theorem names_veilEntries (es : Entries) : (veilEntries es).names = es.names := by
  rw [veilEntries_eq_map, Entries.names, Entries.names, List.map_map]
  rfl

theorem veilEntries_insert (es : Entries) (name : Name) (node : Node) :
    veilEntries (Entries.insert es name node) =
      Entries.insert (veilEntries es) name node.veil := by
  induction es with
  | nil => simp only [Entries.insert, veilEntries]
  | cons e es ih =>
    obtain ⟨n, x⟩ := e
    rw [veilEntries, Entries.insert, Entries.insert]
    split
    · rw [veilEntries]
    · split
      · rw [veilEntries, veilEntries]
      · rw [veilEntries, ih]

theorem veilEntries_erase (es : Entries) (name : Name) :
    veilEntries (Entries.erase es name) = Entries.erase (veilEntries es) name := by
  rw [veilEntries_eq_map, veilEntries_eq_map, Entries.erase, Entries.erase, List.filter_map]
  rfl

theorem walk_veil (node : Node) (p : Path) : node.veil.walk p = (node.walk p).map veil := by
  induction p generalizing node with
  | nil => rw [walk_nil, walk_nil, Except.map]
  | cons name rest ih =>
    cases node with
    | file s data => rw [veil, walk_file_cons, walk_file_cons, Except.map]
    | directory s es =>
      rw [veil, walk_directory_cons, walk_directory_cons, find?_veilEntries]
      cases Entries.find? es name with
      | none => rfl
      | some child => exact ih child

mutual

theorem paths_veil : ∀ node : Node, node.veil.nodes.map Prod.fst = node.nodes.map Prod.fst
  | .file s data => by simp only [veil, nodes, List.map_cons, List.map_nil]
  | .directory s es => by
    simp only [veil, nodes, List.map_cons, paths_veilEntries es]

theorem paths_veilEntries :
    ∀ es : Entries, (entryNodes (veilEntries es)).map Prod.fst = (entryNodes es).map Prod.fst
  | [] => by rw [veilEntries]
  | (name, child) :: es => by
    have hchild := congrArg (List.map (name :: ·)) (paths_veil child)
    rw [List.map_map, List.map_map] at hchild
    rw [veilEntries, entryNodes, entryNodes, List.map_append, List.map_append, List.map_map,
      List.map_map, paths_veilEntries es]
    exact congrArg (· ++ _) hchild

end

theorem height_veil (node : Node) : node.veil.height = node.height := by
  have h := congrArg (List.map List.length) (paths_veil node)
  rw [List.map_map, List.map_map] at h
  exact congrArg (List.foldl max 0) h

/-- A change of a node whose effect can be seen of what can be seen of the node. -/
def Respectful (f : Node → Node) : Prop :=
  ∀ x y : Node, x.veil = y.veil → (f x).veil = (f y).veil

theorem Respectful.comp {f g : Node → Node} (hf : Respectful f) (hg : Respectful g) :
    Respectful fun x => f (g x) :=
  fun x y h => hf _ _ (hg x y h)

theorem Respectful.modify {f : Node → Node} (hf : Respectful f) (p : Path) :
    Respectful (modify f p) := by
  induction p with
  | nil => exact hf
  | cons name rest ih =>
    intro x y h
    rcases veil_cases h with ⟨s, a, b, rfl, rfl, -⟩ | ⟨s, es, fs, rfl, rfl, -⟩
    · exact h
    · obtain ⟨-, hentries⟩ := veil_directory_eq_iff.mp h
      rw [Node.modify, Node.modify]
      refine veil_directory_eq_iff.mpr ⟨rfl, ?_⟩
      rw [Entries.update, Entries.update, List.forall₂_map_left_iff, List.forall₂_map_right_iff]
      refine hentries.imp fun e f hef => ?_
      rw [hef.1]
      split
      · exact ⟨rfl, ih _ _ hef.2⟩
      · exact hef

theorem respectful_setTime (t : Json) : Respectful (setTime t) := by
  intro x y h
  rcases veil_cases h with ⟨s, a, b, rfl, rfl, -⟩ | ⟨s, es, fs, rfl, rfl, -⟩
  · exact veil_file_eq_iff.mpr ⟨rfl, (veil_file_eq_iff.mp h).2⟩
  · exact veil_directory_eq_iff.mpr ⟨rfl, (veil_directory_eq_iff.mp h).2⟩

theorem respectful_insert (name : Name) (node : Node) :
    Respectful (mapEntries (Entries.insert · name node)) := by
  intro x y h
  rcases veil_cases h with ⟨s, a, b, rfl, rfl, -⟩ | ⟨s, es, fs, rfl, rfl, hentries⟩
  · exact h
  · rw [mapEntries, mapEntries, veil, veil, veilEntries_insert, veilEntries_insert, hentries]

theorem respectful_erase (name : Name) : Respectful (mapEntries (Entries.erase · name)) := by
  intro x y h
  rcases veil_cases h with ⟨s, a, b, rfl, rfl, -⟩ | ⟨s, es, fs, rfl, rfl, hentries⟩
  · exact h
  · rw [mapEntries, mapEntries, veil, veil, veilEntries_erase, veilEntries_erase, hentries]

theorem respectful_setData (mode : Volume.WriteMode) (data : Bytes) :
    Respectful (setData (mode.combine data)) := by
  intro x y h
  rcases veil_cases h with ⟨s, a, b, rfl, rfl, hdata⟩ | ⟨s, es, fs, rfl, rfl, -⟩
  · obtain ⟨hlength, hsame⟩ := Stamp.veil_eq_iff.mp hdata
    refine veil_file_eq_iff.mpr ⟨rfl, ?_⟩
    cases mode with
    | replace => exact ⟨rfl, fun _ => rfl⟩
    | append =>
      refine ⟨?_, fun hread => by rw [hsame hread]⟩
      rw [Volume.WriteMode.combine, Volume.WriteMode.combine, List.length_append,
        List.length_append, hlength]
  · exact h

end Node

end MemoryShell
