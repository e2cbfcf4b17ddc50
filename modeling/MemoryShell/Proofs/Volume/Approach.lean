import MemoryShell.Proofs.Coupling
import MemoryShell.Proofs.Volume.Extension

set_option autoImplicit false

namespace MemoryShell

namespace Node

theorem toEntry_cases {x y : Node} (h : x.toEntry = y.toEntry) :
    (∃ s s' data, x = .file s data ∧ y = .file s' data ∧ s.mode = s'.mode) ∨
      ∃ s s' es es', x = .directory s es ∧ y = .directory s' es' ∧ s.mode = s'.mode := by
  cases x with
  | file s data =>
    cases y with
    | file s' data' =>
      obtain ⟨hmode, rfl⟩ := FlatEntry.file.inj h
      exact .inl ⟨s, s', data, rfl, rfl, hmode⟩
    | directory s' es' => cases h
  | directory s es =>
    cases y with
    | file s' data' => cases h
    | directory s' es' => exact .inr ⟨s, s', es, es', rfl, rfl, FlatEntry.directory.inj h⟩

theorem isDirectory_eq_of_toEntry {x y : Node} (h : x.toEntry = y.toEntry) :
    x.isDirectory = y.isDirectory := by
  rcases toEntry_cases h with ⟨s, s', data, rfl, rfl, -⟩ | ⟨s, s', es, es', rfl, rfl, -⟩ <;> rfl

theorem walk_congr {x y : Node} {p : Path} (h : ∀ q, q <+: p → x.entry q = y.entry q) :
    Agree (fun c d => c.toEntry = d.toEntry) (x.walk p) (y.walk p) := by
  induction p generalizing x y with
  | nil =>
    have hroot := h [] (List.prefix_refl [])
    rw [entry_nil, entry_nil] at hroot
    rw [walk_nil, walk_nil]
    exact Option.some.inj hroot
  | cons name rest ih =>
    have hroot := h [] List.nil_prefix
    rw [entry_nil, entry_nil] at hroot
    rcases toEntry_cases (Option.some.inj hroot) with
      ⟨s, s', data, rfl, rfl, -⟩ | ⟨s, s', es, es', rfl, rfl, -⟩
    · rw [walk_file_cons, walk_file_cons]
      rfl
    · have hbelow : ∀ q, q <+: rest →
          ((Entries.find? es name).bind fun child => child.entry q) =
            (Entries.find? es' name).bind fun child => child.entry q := by
        intro q hq
        have hcons := h (name :: q) (List.cons_prefix_cons.mpr ⟨rfl, hq⟩)
        rwa [entry_directory_cons, entry_directory_cons] at hcons
      have hthere := hbelow [] List.nil_prefix
      rw [walk_directory_cons, walk_directory_cons]
      cases hx : Entries.find? es name with
      | none =>
        cases hy : Entries.find? es' name with
        | none => rfl
        | some d => simp [hx, hy] at hthere
      | some c =>
        cases hy : Entries.find? es' name with
        | none => simp [hx, hy] at hthere
        | some d =>
          refine ih fun q hq => ?_
          have hsame := hbelow q hq
          rwa [hx, hy] at hsame

end Node

namespace Volume

/-- Slots that differ in times only. -/
structure SameSlot (a b : Slot) : Prop where
  mode : a.stamp.mode = b.stamp.mode
  node : a.node?.map Node.toEntry = b.node?.map Node.toEntry

theorem SameSlot.cases {a b : Slot} (h : SameSlot a b) :
    (a.node? = none ∧ b.node? = none) ∨
      ∃ x y, a.node? = some x ∧ b.node? = some y ∧ x.toEntry = y.toEntry := by
  have hnode := h.node
  cases hx : a.node? with
  | none =>
    rw [hx, Option.map_none] at hnode
    exact .inl ⟨rfl, Option.map_eq_none_iff.mp hnode.symm⟩
  | some x =>
    rw [hx, Option.map_some] at hnode
    obtain ⟨y, hy, hxy⟩ := Option.map_eq_some_iff.mp hnode.symm
    exact .inr ⟨x, y, rfl, hy, hxy.symm⟩

theorem demanded_congr {s s' : Stamp} (h : s.mode = s'.mode) (request : Int) (spelling : Text) :
    demanded s request spelling = demanded s' request spelling := by
  have hallows : s.allows request = s'.allows request := by
    simp only [Stamp.allows, Stamp.grants, h]
  rw [demanded, demanded, hallows]

theorem agree_demanded {s s' : Stamp} (h : s.mode = s'.mode) (request : Int) (spelling : Text)
    {α β : Type} {Q : α → β → Prop} {a : α} {b : β} (hab : Q a b) :
    Agree Q ((demanded s request spelling).map fun _ => a)
      ((demanded s' request spelling).map fun _ => b) := by
  rw [demanded_congr h]
  cases demanded s' request spelling with
  | error e => rfl
  | ok _ => exact hab

/-- Two volumes show the same at a path and above it, and both are open or both are released. -/
structure SameApproach (p : Path) (v w : Volume) : Prop where
  released : v.released = w.released
  entry : ∀ q, q <+: p → v.root.entry q = w.root.entry q

namespace SameApproach

variable {p : Path} {v w : Volume} {spelling : Text}

theorem above (h : SameApproach p v w) {q : Path} (hq : q <+: p) : SameApproach q v w :=
  ⟨h.released, fun r hr => h.entry r (hr.trans hq)⟩

theorem find (h : SameApproach p v w) (hp : Path.parse? spelling = some p) :
    Agree (fun x y => x.toEntry = y.toEntry) (v.find spelling) (w.find spelling) := by
  unfold Volume.find
  rw [h.released, hp]
  split
  · rfl
  · exact (Node.walk_congr h.entry).mapError _

variable (h : SameApproach p v w) (hp : Path.parse? spelling = some p)

include h hp

theorem slot : Agree SameSlot (v.slot spelling) (w.slot spelling) := by
  unfold Volume.slot
  rw [hp]
  cases hl : p.getLast? with
  | none =>
    simp only [hl]
    rfl
  | some name =>
    simp only [hl]
    have hpath : p = p.dropLast ++ [name] := (List.dropLast_append_getLast? name hl).symm
    have hfind := (h.above (List.dropLast_prefix p)).find (Path.parse?_text p.dropLast)
    rcases hv : v.find (Path.text p.dropLast) with e | x <;>
      rcases hw : w.find (Path.text p.dropLast) with f | y <;> rw [hv, hw] at hfind
    · exact hfind
    · exact hfind.elim
    · exact hfind.elim
    · rcases Node.toEntry_cases hfind with ⟨s, s', data, rfl, rfl, -⟩ |
        ⟨s, s', es, es', rfl, rfl, hmode⟩
      · rfl
      · -- what the name stands for is what both show at the whole path
        have hsame := h.entry p (List.prefix_refl p)
        rw [hpath, Node.entry, Node.entry,
          Node.at?_name ((isOpen_of_find hv).2 (Path.parse?_text _)),
          Node.at?_name ((isOpen_of_find hw).2 (Path.parse?_text _))] at hsame
        exact ⟨hmode, hsame⟩

theorem writable : Agree SameSlot (v.writable spelling) (w.writable spelling) := by
  unfold Volume.writable
  rcases (h.slot hp).cases with ⟨a, b, ha, hb, hab⟩ | ⟨e, ha, hb⟩
  · rw [ha, hb]
    rcases hab.cases with ⟨hx, hy⟩ | ⟨x, y, hx, hy, hxy⟩
    · simp only [hx, hy]
      exact agree_demanded hab.mode _ _ hab
    · rcases Node.toEntry_cases hxy with ⟨s, s', data, rfl, rfl, hs⟩ | ⟨s, s', es, es', rfl, rfl, -⟩
      · simp only [hx, hy]
        exact agree_demanded hs _ _ hab
      · simp only [hx, hy]
        rfl
  · rw [ha, hb]
    rfl

theorem occupied :
    Agree (fun a b => a.2.toEntry = b.2.toEntry) (v.occupied spelling) (w.occupied spelling) := by
  unfold Volume.occupied
  rcases (h.slot hp).cases with ⟨a, b, ha, hb, hab⟩ | ⟨e, ha, hb⟩
  · rw [ha, hb]
    rcases hab.cases with ⟨hx, hy⟩ | ⟨x, y, hx, hy, hxy⟩
    · simp only [hx, hy]
      rfl
    · simp only [hx, hy]
      exact hxy
  · rw [ha, hb]
    rfl

theorem fileData : Agree Eq (v.fileData spelling) (w.fileData spelling) := by
  unfold Volume.fileData
  rcases (h.find hp).cases with ⟨x, y, hx, hy, hxy⟩ | ⟨e, hx, hy⟩
  · rw [hx, hy]
    rcases Node.toEntry_cases hxy with ⟨s, s', data, rfl, rfl, hmode⟩ |
      ⟨s, s', es, es', rfl, rfl, -⟩
    · exact agree_demanded hmode _ _ rfl
    · rfl
  · rw [hx, hy]
    rfl

variable (now now' : Int)

theorem fst_writeFile (mode : WriteMode) (data : Bytes) :
    (outcome (writeFile now mode spelling data) v).1 =
      (outcome (writeFile now' mode spelling data) w).1 := by
  rw [outcome_writeFile, outcome_writeFile]
  rcases (h.writable hp).cases with ⟨a, b, ha, hb, -⟩ | ⟨e, ha, hb⟩ <;> rw [ha, hb]

theorem fst_makeDirectory :
    (outcome (makeDirectory now spelling) v).1 = (outcome (makeDirectory now' spelling) w).1 := by
  rw [outcome_makeDirectory, outcome_makeDirectory]
  rcases (h.slot hp).cases with ⟨a, b, ha, hb, hab⟩ | ⟨e, ha, hb⟩
  · rw [ha, hb]
    rcases hab.cases with ⟨hx, hy⟩ | ⟨x, y, hx, hy, -⟩
    · simp only [hx, hy, demanded_congr hab.mode]
      cases demanded b.stamp Access.write.flag spelling <;> rfl
    · simp only [hx, hy]
  · rw [ha, hb]

theorem fst_remove (recursive force : Bool) :
    (outcome (remove now spelling recursive force) v).1 =
      (outcome (remove now' spelling recursive force) w).1 := by
  rw [outcome_remove, outcome_remove]
  rcases (h.occupied hp).cases with ⟨a, b, ha, hb, hab⟩ | ⟨e, ha, hb⟩
  · rw [ha, hb]
    simp only [Node.isDirectory_eq_of_toEntry hab]
    split <;> rfl
  · rw [ha, hb]
    cases e with
    | file errno t => cases errno <;> rfl
    | _ => rfl

theorem fst_setTimes (mtime mtime' : Json) :
    (outcome (setTimes spelling mtime) v).1 = (outcome (setTimes spelling mtime') w).1 := by
  rw [outcome_setTimes, outcome_setTimes]
  rcases (h.find hp).cases with ⟨x, y, hx, hy, -⟩ | ⟨e, hx, hy⟩ <;> rw [hx, hy]

theorem fst_setMode (mode : Int) :
    (outcome (setMode spelling mode) v).1 = (outcome (setMode spelling mode) w).1 := by
  rw [outcome_setMode, outcome_setMode]
  rcases (h.find hp).cases with ⟨x, y, hx, hy, -⟩ | ⟨e, hx, hy⟩ <;> rw [hx, hy]

end SameApproach

end Volume

end MemoryShell
