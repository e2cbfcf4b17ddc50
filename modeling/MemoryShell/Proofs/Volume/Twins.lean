import MemoryShell.Proofs.Volume.Approach
import MemoryShell.Proofs.Volume.History
import MemoryShell.Proofs.Volume.Refinement

set_option autoImplicit false

namespace MemoryShell

namespace Node

theorem height_le_iff {node : Node} (ho : node.Everywhere InOrder) {n : Nat} :
    node.height ≤ n ↔ ∀ p, (node.entry p).isSome = true → p.length ≤ n := by
  rw [height, List.max?_le_iff List.max?_cons', List.forall_mem_cons]
  constructor
  · rintro ⟨-, hall⟩ p hp
    obtain ⟨e, he⟩ := Option.isSome_iff_exists.mp hp
    obtain ⟨child, hw, -⟩ := entry_eq_some.mp he
    exact hall _ (List.mem_map_of_mem (mem_nodes_of_walk hw))
  · intro h
    refine ⟨Nat.zero_le n, fun m hm => ?_⟩
    obtain ⟨⟨p, child⟩, hmem, rfl⟩ := List.mem_map.mp hm
    exact h p (by rw [entry_of_walk (walk_of_mem_nodes ho hmem), Option.isSome_some])

theorem height_eq {a b : Node} (ha : a.Everywhere InOrder) (hb : b.Everywhere InOrder)
    (h : ∀ p, (a.entry p).isSome = (b.entry p).isSome) : a.height = b.height := by
  have hle : ∀ n, a.height ≤ n ↔ b.height ≤ n := by
    intro n
    rw [height_le_iff ha, height_le_iff hb]
    simp only [h]
  exact Nat.le_antisymm ((hle _).mpr le_rfl) ((hle _).mp le_rfl)

end Node

namespace Volume

open PathMap

/-- Two open volumes that show the same at every path; the times of their nodes may differ. -/
structure Twins (v w : Volume) : Prop where
  left : WellFormed v
  right : WellFormed w
  openLeft : v.released = false
  openRight : w.released = false
  same : ∀ p, v.root.entry p = w.root.entry p

namespace Twins

variable {v w : Volume} (h : Twins v w)

include h

theorem exists_map : ∃ m : PathMap, m.Depicts v.root ∧ m.Depicts w.root :=
  ⟨v.root.pathMap h.left.root, fun _ => rfl, h.same⟩

theorem height : v.root.height = w.root.height :=
  Node.height_eq h.left.ordered h.right.ordered fun p => by rw [h.same]

theorem approach (p : Path) : SameApproach p v w :=
  ⟨h.openLeft.trans h.openRight.symm, fun q _ => h.same q⟩

theorem walk (p : Path) :
    Agree (fun x y => x.toEntry = y.toEntry) (v.root.walk p) (w.root.walk p) :=
  Node.walk_congr fun q _ => h.same q

theorem find (p : Path) :
    Agree (fun x y => x.toEntry = y.toEntry) (v.find p.text) (w.find p.text) :=
  (h.approach p).find (Path.parse?_text p)

theorem fileData (p : Path) : Agree Eq (v.fileData p.text) (w.fileData p.text) :=
  (h.approach p).fileData (Path.parse?_text p)

end Twins

theorem Twins.perform {v w : Volume} (h : Twins v w) {op op' : Operation} {fop : FlatOperation}
    (hop : op.located? = some fop) (hop' : op'.located? = some fop) (now now' : Int) :
    Twins (outcome (op.perform now) v).2 (outcome (op'.perform now') w).2 := by
  obtain ⟨m, hv, hw⟩ := h.exists_map
  have hleft := matches_perform hv h.left.ordered h.openLeft hop now
  have hright := matches_perform hw h.right.ordered h.openRight hop' now'
  exact ⟨h.left.perform op now, h.right.perform op' now', hleft.isOpen, hright.isOpen,
    fun p => (hleft.depicts p).symm.trans (hright.depicts p)⟩

theorem coupled_silent {x y : VolumeM Unit} {op op' : Operation} {fop : FlatOperation}
    (hop : op.located? = some fop) (hop' : op'.located? = some fop) {now now' : Int}
    (hx : op.perform now = silent x) (hy : op'.perform now' = silent y)
    (hanswer : ∀ v w, Twins v w → (outcome x v).1 = (outcome y w).1) :
    Coupled Twins Eq x y := by
  intro v w h
  have hafter := h.perform hop hop' now now'
  rw [hx, hy, outcome_silent, outcome_silent] at hafter
  exact ⟨.of_eq (hanswer v w h), hafter⟩

variable (now now' : Int) (p : Path)

theorem coupled_stat : Coupled Twins (fun a b => a.kind = b.kind) (stat p.text) (stat p.text) := by
  intro v w h
  rw [outcome_stat, outcome_stat]
  refine ⟨?_, h⟩
  rcases (h.find p).cases with ⟨x, y, hx, hy, hxy⟩ | ⟨e, hx, hy⟩
  · rw [hx, hy]
    rcases Node.toEntry_cases hxy with ⟨s, s', data, rfl, rfl, -⟩ | ⟨s, s', es, es', rfl, rfl, -⟩
    · rfl
    · rfl
  · rw [hx, hy]
    rfl

theorem coupled_access (request : Int) :
    Coupled Twins Eq (access p.text request) (access p.text request) := by
  intro v w h
  rw [outcome_access, outcome_access]
  refine ⟨?_, h⟩
  rcases (h.find p).cases with ⟨x, y, hx, hy, hxy⟩ | ⟨e, hx, hy⟩
  · rw [hx, hy]
    have hmode : x.stamp.mode = y.stamp.mode := by
      rcases Node.toEntry_cases hxy with ⟨s, s', data, rfl, rfl, hs⟩ |
        ⟨s, s', es, es', rfl, rfl, hs⟩
      · exact hs
      · exact hs
    simp only [Except.bind, demanded_congr hmode]
    cases demanded y.stamp request p.text <;> rfl
  · rw [hx, hy]
    rfl

theorem coupled_readDirectory :
    Coupled Twins Eq (readDirectory p.text) (readDirectory p.text) := by
  intro v w h
  rw [outcome_readDirectory, outcome_readDirectory, find_of_parse? h.openLeft (Path.parse?_text p),
    find_of_parse? h.openRight (Path.parse?_text p)]
  refine ⟨?_, h⟩
  rcases (h.walk p).cases with ⟨x, y, hx, hy, hxy⟩ | ⟨e, hx, hy⟩
  · rcases Node.toEntry_cases hxy with ⟨s, s', data, rfl, rfl, -⟩ |
      ⟨s, s', es, es', rfl, rfl, -⟩
    · rw [hx, hy]
      rfl
    · obtain ⟨m, hv, hw⟩ := h.exists_map
      have hnames : Entries.names es = Entries.names es' := by
        rw [← hv.names h.left.ordered hx, ← hw.names h.right.ordered hy]
      rw [hx, hy]
      exact hnames
  · rw [hx, hy]
    rfl

theorem coupled_readText (encoding : String) :
    Coupled Twins Eq (readText p.text encoding) (readText p.text encoding) := by
  intro v w h
  rw [outcome_readText, outcome_readText, fileText, fileText]
  refine ⟨?_, h⟩
  rcases (h.fileData p).cases with ⟨a, b, ha, hb, rfl⟩ | ⟨e, ha, hb⟩
  · rw [ha, hb]
    simp only
    split
    · rfl
    · split
      · rfl
      · split <;> rfl
  · rw [ha, hb]
    rfl

theorem coupled_writeFile (mode : WriteMode) (data : Bytes) :
    Coupled Twins Eq (writeFile now mode p.text data) (writeFile now' mode p.text data) := by
  have hop : (Operation.write mode p.text (.octets data)).located? =
      some (.write mode p (.octets data)) := by
    simp [Operation.located?]
  exact coupled_silent hop hop rfl rfl fun v w h =>
    (h.approach p).fst_writeFile (Path.parse?_text p) now now' mode data

theorem coupled_writeText (mode : WriteMode) (t : Text) :
    Coupled Twins Eq (writeText now mode p.text t) (writeText now' mode p.text t) := by
  intro v w h
  rw [outcome_writeText, outcome_writeText]
  cases Utf8.encodeText? t with
  | none => exact ⟨rfl, h⟩
  | some data => exact coupled_writeFile now now' p mode data v w h

theorem coupled_copyFile (source : Path) :
    Coupled Twins Eq (copyFile now source.text p.text) (copyFile now' source.text p.text) := by
  intro v w h
  rw [outcome_copyFile, outcome_copyFile]
  rcases (h.fileData source).cases with ⟨a, b, ha, hb, rfl⟩ | ⟨e, ha, hb⟩
  · rw [ha, hb]
    exact coupled_writeFile now now' p .replace a v w h
  · rw [ha, hb]
    exact ⟨rfl, h⟩

theorem coupled_makeDirectory :
    Coupled Twins Eq (makeDirectory now p.text) (makeDirectory now' p.text) := by
  have hop : (Operation.makeDirectory p.text false).located? = some (.makeDirectory p false) := by
    simp [Operation.located?]
  exact coupled_silent hop hop rfl rfl fun v w h =>
    (h.approach p).fst_makeDirectory (Path.parse?_text p) now now'

theorem coupled_makeDirectories :
    Coupled Twins Eq (makeDirectories now p.text) (makeDirectories now' p.text) := by
  have hop : (Operation.makeDirectory p.text true).located? = some (.makeDirectory p true) := by
    simp [Operation.located?]
  refine coupled_silent hop hop rfl rfl fun v w h => ?_
  obtain ⟨m, hv, hw⟩ := h.exists_map
  have hroot : m.isDirectory [] = true := (m.isDirectory_iff []).mpr m.root
  rw [outcome_makeDirectories, outcome_makeDirectories, h.openLeft, h.openRight]
  simp only [Path.parse?_text, Bool.false_eq_true, if_false]
  -- whether a file stands in the way is seen on the one map that depicts both
  rcases makeBelow_cases now p.text p hv hroot with ⟨hblocked, hrun⟩ | ⟨hopen, v', hrun, -⟩
  · rcases makeBelow_cases now' p.text p hw hroot with ⟨-, hrun'⟩ | ⟨hopen', -⟩
    · rw [hrun, hrun']
    · rw [hblocked] at hopen'
      cases hopen'
  · rcases makeBelow_cases now' p.text p hw hroot with ⟨hblocked', -⟩ | ⟨-, w', hrun', -⟩
    · rw [hopen] at hblocked'
      cases hblocked'
    · rw [hrun, hrun']

theorem coupled_remove (recursive force : Bool) :
    Coupled Twins Eq (remove now p.text recursive force) (remove now' p.text recursive force) := by
  have hop : (Operation.remove p.text recursive force).located? =
      some (.remove p recursive force) := by
    simp [Operation.located?]
  exact coupled_silent hop hop rfl rfl fun v w h =>
    (h.approach p).fst_remove (Path.parse?_text p) now now' recursive force

theorem coupled_setTimes (mtime mtime' : Json) :
    Coupled Twins Eq (setTimes p.text mtime) (setTimes p.text mtime') := by
  have hop : ∀ t, (Operation.setTimes p.text t).located? = some (.setTimes p) := by
    simp [Operation.located?]
  have hperform : ∀ t, (Operation.setTimes p.text t).perform 0 = silent (setTimes p.text t) :=
    fun _ => rfl
  exact coupled_silent (hop mtime) (hop mtime') (hperform mtime) (hperform mtime') fun v w h =>
    (h.approach p).fst_setTimes (Path.parse?_text p) mtime mtime'

end Volume

end MemoryShell
