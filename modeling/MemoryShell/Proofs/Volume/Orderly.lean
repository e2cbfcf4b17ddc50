import MemoryShell.Proofs.Path.Below
import MemoryShell.Proofs.Volume.Respelling
import MemoryShell.Proofs.Volume.Use

/-!
The order of a tree. Whatever is done to a volume, its root is a directory, nothing lies below a file,
the entries of a directory have proper names in strictly ascending order, and no mode has other bits
than the nine of a permission. So joining the names on the way down to a node gives the canonical
spelling of its path, and that spelling leads to the node.
-/

set_option autoImplicit false

namespace MemoryShell

namespace Node

/-- A mode has no other bits than the nine of a permission. -/
def Moderate (node : Node) : Prop :=
  node.stamp.mode ≤ 0o777

theorem moderate_local {Allowed : Name → Prop} : Local Moderate Allowed where
  update name f h := h
  insert name node hname h := h
  erase name h := h
  setTime {node} t h := by cases node <;> exact h
  setData {node} g h := by cases node <;> exact h
  newFile now data := show Stamp.fileMode ≤ 0o777 by decide
  newDirectory now := show Stamp.directoryMode ≤ 0o777 by decide

end Node

def Path.joined (p : Path) : Text :=
  p.foldl (fun above n => Path.join above n.text) [slash]

theorem Path.joined_eq_text (p : Path) : p.joined = p.text :=
  Path.foldl_join_text [] p

theorem Name.proper (n : Name) :
    n.text ≠ [] ∧ slash ∉ n.text ∧ n.text ≠ dot ∧ n.text ≠ dotDot := by
  have hn := n.valid
  simpa [isName, and_assoc] using hn

namespace Volume

/-- The kinds, names and modes of a tree are as they should be. -/
structure Orderly (v : Volume) : Prop where
  root : v.root.isDirectory = true
  files : ∀ p s data, v.root.walk p = .ok (.file s data) →
    ∀ name rest, v.root.walk (p ++ name :: rest) = .error .notDirectory
  names : ∀ p s es, v.root.walk p = .ok (.directory s es) → ∀ n ∈ Entries.names es,
    n.text ≠ [] ∧ slash ∉ n.text ∧ n.text ≠ dot ∧ n.text ≠ dotDot
  ascending : ∀ p s es, v.root.walk p = .ok (.directory s es) →
    ((Entries.names es).map Name.text).Pairwise (· < ·)
  modes : ∀ p node, v.root.walk p = .ok node → node.stamp.mode ≤ 0o777

/-- The names on the way down to a node lead to it, and it either holds data or has entries. -/
structure LedTo (v : Volume) (p : Path) (node : Node) : Prop where
  canonical : normalize p.joined = p.joined
  parsed : Path.parse? p.joined = some p
  found : (outcome (lookup p.joined) v).1 = .ok node
  file : ∀ s data, node = .file s data →
    (outcome (readDirectory p.joined) v).1 = .error (.file .notDirectory p.joined)
  directory : ∀ s es, node = .directory s es →
    (outcome (readFile p.joined) v).1 = .error (.file .isDirectory p.joined) ∧
      (outcome (readDirectory p.joined) v).1 = .ok (Entries.names es)

variable {v : Volume}

theorem moderate_setMode (hv : v.root.Everywhere Node.Moderate) (spelling : Text) (mode : Int) :
    (outcome (setMode spelling mode) v).2.root.Everywhere Node.Moderate := by
  rw [outcome_setMode]
  split
  · exact hv
  · have hlocal : Node.Local Node.Moderate fun _ => True := Node.moderate_local
    refine hv.modify hlocal fun child hc => (hv.below hc).mapStamp ?_
    have hmode : (mode % 0o1000).toNat ≤ 0o777 := by omega
    cases child <;> exact hmode

theorem moderate_perform (now : Int) (op : Operation) (hv : v.root.Everywhere Node.Moderate) :
    (outcome (op.perform now) v).2.root.Everywhere Node.Moderate := by
  by_cases hop : ∃ s mode, op = .setMode s mode
  · obtain ⟨s, mode, rfl⟩ := hop
    rw [Operation.perform, outcome_silent]
    exact moderate_setMode hv s mode
  · have hchanges : Changes (fun _ => True) False v (outcome (op.perform now) v).2 :=
      changes_perform_of_modes (fun _ _ _ _ _ _ => trivial)
        (fun s mode h => hop ⟨s, mode, h⟩) now v
    exact hchanges.everywhere Node.moderate_local (fun h => h.elim) hv

theorem wellFormed_release (now : Int) (v : Volume) : WellFormed (v.release now) :=
  ⟨rfl, (wellFormed_empty now).ordered⟩

theorem moderate_newDirectory (now : Int) : (Node.newDirectory now).Everywhere Node.Moderate := by
  have hlocal : Node.Local Node.Moderate fun _ => True := Node.moderate_local
  exact Node.everywhere_newDirectory hlocal now

theorem wellFormed_moderate_used {start : Int} (hv : Started start v) (history : List (Int × Use)) :
    WellFormed (used v history) ∧ (used v history).root.Everywhere Node.Moderate := by
  refine holds_used (I := fun v => WellFormed v ∧ v.root.Everywhere Node.Moderate)
    (fun now op v hv => ⟨hv.1.perform op now, moderate_perform now op hv.2⟩)
    (fun now v _ => ⟨wellFormed_release now v, moderate_newDirectory now⟩) history ?_
  exact ⟨(wellFormed_empty start).changes hv.changes,
    hv.changes.everywhere Node.moderate_local (fun h => h.elim) (moderate_newDirectory start)⟩

theorem orderly_of_wellFormed (hv : WellFormed v) (hm : v.root.Everywhere Node.Moderate) :
    Orderly v where
  root := hv.root
  files p s data hw name rest := by rw [Node.walk_append_ok hw, Node.walk_file_cons]
  names _ _ _ _ n _ := n.proper
  ascending p s es hw := List.pairwise_map.mpr (hv.ordered p _ hw)
  modes := hm

theorem ledTo_of_walk (hopen : v.released = false) {p : Path} {node : Node}
    (hw : v.root.walk p = .ok node) : LedTo v p node := by
  have hfind : v.find p.text = .ok node := by
    rw [find_of_parse? hopen (Path.parse?_text p), hw, mapError_ok]
  rw [← Path.joined_eq_text] at hfind
  refine ⟨?_, ?_, ?_, fun s data hfile => ?_, fun s es hdirectory => ?_⟩
  · rw [Path.joined_eq_text, normalize, Path.parse?_text, Option.map_some, Option.getD_some]
  · rw [Path.joined_eq_text, Path.parse?_text]
  · rw [outcome_lookup, hfind]
  · rw [outcome_readDirectory, hfind, hfile]
  · rw [outcome_readFile, outcome_readDirectory, fileData, hfind, hdirectory]
    exact ⟨rfl, rfl⟩

/-- A volume starts empty or as what a JSON value describes. Whatever is then done to it, by operations
and by calls with arguments of any kind, its tree is orderly, every answer to reading a directory is
strictly ascending, and as long as it is open the names on the way down to a node lead to it. -/
theorem orderly_used {start : Int} (hv : Started start v) (history : List (Int × Use)) :
    Orderly (used v history) ∧
      (∀ spelling ns, (outcome (readDirectory spelling) (used v history)).1 = .ok ns →
        (ns.map Name.text).Pairwise (· < ·)) ∧
      ((used v history).released = false →
        ∀ p node, (used v history).root.walk p = .ok node → LedTo (used v history) p node) := by
  obtain ⟨hformed, hmoderate⟩ := wellFormed_moderate_used hv history
  have horderly := orderly_of_wellFormed hformed hmoderate
  refine ⟨horderly, fun spelling ns hns => ?_, fun hopen p node hw => ledTo_of_walk hopen hw⟩
  rw [outcome_readDirectory] at hns
  rcases hf : (used v history).find spelling with e | (⟨s, data⟩ | ⟨s, es⟩)
  · rw [hf] at hns
    cases hns
  · rw [hf] at hns
    cases hns
  · rw [hf] at hns
    obtain ⟨p, hw⟩ := walk_of_find hf
    exact Except.ok.inj hns ▸ horderly.ascending p s es hw

/-- A spelling that is not canonical and a mode with too many bits make an orderly tree too. -/
theorem orderly_used_odd_arguments :
    let d : Name := ⟨.ofString "d", by decide⟩
    let v : Volume := ⟨.directory (.fresh 0o777 0) [(d, .newDirectory 0)], false⟩
    let history := [(1, Use.performed (.write .append (.ofString "/../d//f") (.octets [104]))),
      (2, Use.called .volume "chmod" [.value (.ofString "/d/."), .value (.integer (-1))] [])]
    Snapshot.toVolume 0 (.object [(.ofString "//d/./b/..", .null)]) = .ok v ∧
      Orderly (used v history) ∧
      LedTo (used v history) [d, ⟨.ofString "f", by decide⟩] (.newFile 1 [104]) := by
  intro d v history
  have hloaded : Snapshot.toVolume 0 (.object [(.ofString "//d/./b/..", .null)]) = .ok v := rfl
  obtain ⟨horderly, -, hled⟩ := orderly_used (.loaded hloaded) history
  exact ⟨hloaded, horderly, hled rfl _ _ rfl⟩

end Volume

end MemoryShell
