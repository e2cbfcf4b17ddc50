import MemoryShell.Proofs.Tree.Walk

set_option autoImplicit false

namespace MemoryShell.Node

/-- A property holds at every path of a tree. -/
def Everywhere (P : Node → Prop) (node : Node) : Prop :=
  ∀ p child, node.walk p = .ok child → P child

/-- A property of nodes that is kept wherever one node is changed, if new names are allowed. -/
structure Local (P : Node → Prop) (Allowed : Name → Prop) : Prop where
  update : ∀ {s es} name f, P (.directory s es) → P (.directory s (Entries.update es name f))
  insert : ∀ {s es} name node, Allowed name → P (.directory s es) →
    P (.directory s (Entries.insert es name node))
  erase : ∀ {s es} name, P (.directory s es) → P (.directory s (Entries.erase es name))
  setTime : ∀ {node} t, P node → P (node.setTime t)
  setData : ∀ {node} g, P node → P (node.setData g)
  newFile : ∀ now data, P (newFile now data)
  newDirectory : ∀ now, P (newDirectory now)

variable {P : Node → Prop} {Allowed : Name → Prop}

theorem Everywhere.here {node : Node} (h : Everywhere P node) : P node :=
  h [] node (walk_nil node)

theorem Everywhere.below {node child : Node} {p : Path} (h : Everywhere P node)
    (hp : node.walk p = .ok child) : Everywhere P child :=
  fun q descendant hq => h (p ++ q) descendant (by rw [walk_append_ok hp, hq])

theorem everywhere_file {s : Stamp} {data : Bytes} :
    Everywhere P (.file s data) ↔ P (.file s data) := by
  constructor
  · exact Everywhere.here
  · intro h p child hp
    cases p with
    | nil =>
      rw [walk_nil] at hp
      exact Except.ok.inj hp ▸ h
    | cons name rest => simp [walk_file_cons] at hp

theorem everywhere_directory {s : Stamp} {es : Entries} :
    Everywhere P (.directory s es) ↔
      P (.directory s es) ∧ ∀ name child, Entries.find? es name = some child →
        Everywhere P child := by
  constructor
  · intro h
    refine ⟨h.here, fun name child hf => h.below (p := [name]) ?_⟩
    simp [walk_directory_cons, hf]
  · rintro ⟨hroot, hbelow⟩ p child hp
    cases p with
    | nil =>
      rw [walk_nil] at hp
      exact Except.ok.inj hp ▸ hroot
    | cons name rest =>
      rw [walk_directory_cons] at hp
      cases hf : Entries.find? es name with
      | none => simp [hf] at hp
      | some next =>
        rw [hf] at hp
        exact hbelow name next hf rest child hp

theorem Everywhere.modify (hP : Local P Allowed) {f : Node → Node} {p : Path} {node : Node}
    (h : Everywhere P node) (hf : ∀ child, node.walk p = .ok child → Everywhere P (f child)) :
    Everywhere P (modify f p node) := by
  induction p generalizing node with
  | nil => exact hf node (walk_nil node)
  | cons name rest ih =>
    cases node with
    | file s data => exact h
    | directory s es =>
      rw [Node.modify]
      obtain ⟨hroot, hbelow⟩ := everywhere_directory.mp h
      refine everywhere_directory.mpr ⟨hP.update name _ hroot, fun other child hc => ?_⟩
      rw [Entries.find?_update] at hc
      split at hc
      · rename_i heq
        subst heq
        obtain ⟨old, hold, rfl⟩ := Option.map_eq_some_iff.mp hc
        refine ih (hbelow name old hold) fun c hc => hf c ?_
        simpa [walk_directory_cons, hold] using hc
      · exact hbelow other child hc

theorem Everywhere.mapStamp {node : Node} {f : Stamp → Stamp} (h : Everywhere P node)
    (hf : P (node.mapStamp f)) : Everywhere P (node.mapStamp f) := by
  cases node with
  | file s data => exact everywhere_file.mpr hf
  | directory s es => exact everywhere_directory.mpr ⟨hf, (everywhere_directory.mp h).2⟩

theorem Everywhere.setTime (hP : Local P Allowed) {node : Node} (h : Everywhere P node)
    (t : Json) : Everywhere P (node.setTime t) :=
  h.mapStamp (hP.setTime t h.here)

theorem Everywhere.setData (hP : Local P Allowed) {node : Node} (h : Everywhere P node)
    (g : Bytes → Bytes) : Everywhere P (node.setData g) := by
  cases node with
  | file s data => exact everywhere_file.mpr (hP.setData g h.here)
  | directory s es => exact h

theorem Everywhere.insert (hP : Local P Allowed) {node new : Node} (h : Everywhere P node)
    {name : Name} (hname : Allowed name) (hnew : Everywhere P new) :
    Everywhere P (node.mapEntries (Entries.insert · name new)) := by
  cases node with
  | file s data => exact h
  | directory s es =>
    obtain ⟨hroot, hbelow⟩ := everywhere_directory.mp h
    refine everywhere_directory.mpr ⟨hP.insert name new hname hroot, fun other child hc => ?_⟩
    by_cases heq : name = other
    · subst heq
      rw [Entries.find?_insert_self] at hc
      exact Option.some.inj hc ▸ hnew
    · rw [Entries.find?_insert_of_ne es new heq] at hc
      exact hbelow other child hc

theorem Everywhere.erase (hP : Local P Allowed) {node : Node} (h : Everywhere P node)
    (name : Name) : Everywhere P (node.mapEntries (Entries.erase · name)) := by
  cases node with
  | file s data => exact h
  | directory s es =>
    obtain ⟨hroot, hbelow⟩ := everywhere_directory.mp h
    refine everywhere_directory.mpr ⟨hP.erase name hroot, fun other child hc => ?_⟩
    by_cases heq : name = other
    · subst heq
      rw [Entries.find?_erase_self] at hc
      simp at hc
    · rw [Entries.find?_erase_of_ne es heq] at hc
      exact hbelow other child hc

theorem everywhere_newFile (hP : Local P Allowed) (now : Int) (data : Bytes) :
    Everywhere P (newFile now data) :=
  everywhere_file.mpr (hP.newFile now data)

theorem everywhere_newDirectory (hP : Local P Allowed) (now : Int) :
    Everywhere P (newDirectory now) :=
  everywhere_directory.mpr ⟨hP.newDirectory now, fun name child h => by simp [Entries.find?] at h⟩

def InOrder : Node → Prop
  | .file _ _ => True
  | .directory _ es => Entries.Sorted es

theorem inOrder_local : Local InOrder Allowed where
  update name f h := Entries.Sorted.update h name f
  insert name node _ h := Entries.Sorted.insert h name node
  erase name h := Entries.Sorted.erase h name
  setTime {node} t h := by cases node <;> exact h
  setData {node} g h := by cases node <;> exact h
  newFile now data := trivial
  newDirectory now := List.Pairwise.nil

def NamesIn (Allowed : Name → Prop) : Node → Prop
  | .file _ _ => True
  | .directory _ es => ∀ n ∈ Entries.names es, Allowed n

instance decidableNamesIn {Allowed : Name → Prop} [DecidablePred Allowed] :
    DecidablePred (NamesIn Allowed)
  | .file _ _ => isTrue trivial
  | .directory _ es => inferInstanceAs (Decidable (∀ n ∈ Entries.names es, Allowed n))

theorem namesIn_local (Allowed : Name → Prop) : Local (NamesIn Allowed) Allowed where
  update name f h n hn := by
    rw [Entries.names_update] at hn
    exact h n hn
  insert name node hname h n hn := by
    rcases Entries.mem_names_insert.mp hn with rfl | hn
    · exact hname
    · exact h n hn
  erase name h n hn := by
    rw [Entries.names_erase] at hn
    exact h n (List.mem_filter.mp hn).1
  setTime {node} t h := by cases node <;> exact h
  setData {node} g h := by cases node <;> exact h
  newFile now data := trivial
  newDirectory now n hn := nomatch hn

theorem Everywhere.names {Allowed : Name → Prop} {node child : Node} {p : Path}
    (h : Everywhere (NamesIn Allowed) node) (hw : node.walk p = .ok child) :
    ∀ n ∈ p, Allowed n := by
  induction p generalizing node with
  | nil => exact fun n hn => nomatch hn
  | cons name rest ih =>
    cases node with
    | file s data => simp [walk_file_cons] at hw
    | directory s es =>
      rw [walk_directory_cons] at hw
      cases hf : Entries.find? es name with
      | none => simp [hf] at hw
      | some next =>
        rw [hf] at hw
        obtain ⟨hroot, hbelow⟩ := everywhere_directory.mp h
        intro n hn
        rcases List.mem_cons.mp hn with rfl | hn
        · exact hroot n (Entries.isSome_find?_iff.mp (by rw [hf, Option.isSome_some]))
        · exact ih (hbelow name next hf) hw n hn

end MemoryShell.Node
