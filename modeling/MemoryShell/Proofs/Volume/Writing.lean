import MemoryShell.Proofs.Text.Reading
import MemoryShell.Proofs.Volume.Extension

set_option autoImplicit false

namespace MemoryShell.Volume

def grantsEntries (v : Volume) (p : Path) : Bool :=
  match v.root.entry p with
  | some (.directory mode) => mode / Access.write.ownerBit % 2 = 1
  | _ => false

/-- Whether a file may be written at a path: the file there grants writing, or nothing is there and
the directory above it does. -/
def accepts (v : Volume) (p : Path) : Bool :=
  match v.root.entry p with
  | some (.file mode _) => mode / Access.write.ownerBit % 2 = 1
  | some (.directory _) => false
  | none => v.grantsEntries p.dropLast

def fileAt (v : Volume) (p : Path) : Nat × Bytes :=
  match v.root.entry p with
  | some (.file mode data) => (mode, data)
  | _ => (Stamp.fileMode, [])

variable {v : Volume} {p : Path}

theorem grantsEntries_eq_true (h : v.grantsEntries p = true) :
    ∃ s es, v.root.walk p = .ok (.directory s es) ∧ s.grants .write = true := by
  unfold grantsEntries at h
  split at h
  · rename_i mode hentry
    obtain ⟨s, es, hw, rfl⟩ := Node.entry_eq_directory.mp hentry
    exact ⟨s, es, hw, h⟩
  · cases h

theorem grantsEntries_dropLast_eq_false {e : Errno} (hw : v.root.walk p = .error e)
    (he : e ≠ .noEntry) : v.grantsEntries p.dropLast = false := by
  have hne : p ≠ [] := by
    rintro rfl
    rw [Node.walk_nil] at hw
    cases hw
  refine Bool.eq_false_iff.mpr fun h => he ?_
  obtain ⟨s, es, hdirectory, -⟩ := grantsEntries_eq_true h
  rw [← List.dropLast_append_getLast hne, Node.walk_append_ok hdirectory,
    Node.walk_directory_cons] at hw
  cases hf : Entries.find? es (p.getLast hne) with
  | none =>
    rw [hf] at hw
    exact (Except.error.inj hw).symm
  | some child =>
    simp only [hf, Node.walk_nil] at hw
    cases hw

theorem slot_of_walk (hopen : v.released = false) {spelling : Text} {name : Name}
    (hp : Path.parse? spelling = some (p ++ [name])) {s : Stamp} {es : Entries}
    (hw : v.root.walk p = .ok (.directory s es)) : v.slot spelling = .ok ⟨p, s, es, name⟩ := by
  simp only [slot, hp, List.getLast?_concat, List.dropLast_concat,
    find_of_parse? hopen (Path.parse?_text p), hw, mapError_ok]

theorem accepts_of_writable {slot : Slot} (h : v.writable p.text = .ok slot) :
    v.accepts p = true := by
  obtain ⟨hslot, hcases⟩ := writable_cases h
  obtain ⟨-, hparse, hwalk⟩ := found_of_slot hslot
  rw [Path.parse?_text] at hparse
  obtain rfl : p = slot.directory ++ [slot.name] := Option.some.inj hparse
  have hentry : v.root.entry (slot.directory ++ [slot.name]) = slot.node?.map Node.toEntry :=
    congrArg (Option.map Node.toEntry) (at?_of_slot hslot)
  unfold accepts
  rw [hentry, List.dropLast_concat]
  rcases hcases with ⟨hfree, hgrants⟩ | ⟨s, data, hfile, hgrants⟩
  · rw [hfree, Option.map_none, grantsEntries, Node.entry_of_walk hwalk]
    exact hgrants
  · rw [hfile]
    exact hgrants

theorem exists_directory_of_accepts (hroot : v.root.isDirectory = true) (h : v.accepts p = true) :
    ∃ above name s es, p = above ++ [name] ∧ v.root.walk above = .ok (.directory s es) ∧
      ((Entries.find? es name = none ∧ s.grants .write = true) ∨
        ∃ t data, Entries.find? es name = some (.file t data) ∧ t.grants .write = true) := by
  have hne : p ≠ [] := by
    rintro rfl
    cases hr : v.root with
    | file s data =>
      rw [hr] at hroot
      cases hroot
    | directory s es => simp [accepts, hr, Node.toEntry] at h
  obtain ⟨above, name, rfl⟩ : ∃ above name, p = above ++ [name] :=
    ⟨p.dropLast, p.getLast hne, (List.dropLast_append_getLast hne).symm⟩
  refine ⟨above, name, ?_⟩
  unfold accepts at h
  split at h
  · rename_i mode data hentry
    -- a file stands there, so a directory is above it
    obtain ⟨child, hw, hchild⟩ := Node.entry_eq_some.mp hentry
    obtain ⟨s, es, habove⟩ := Node.exists_directory_of_walk_append hw
    cases child with
    | directory t fs => cases hchild
    | file t old =>
      obtain ⟨rfl, rfl⟩ := FlatEntry.file.inj hchild
      refine ⟨s, es, rfl, habove, .inr ⟨t, old, ?_, h⟩⟩
      rw [← Node.at?_name habove, Node.at?_eq_some.mpr hw]
  · cases h
  · rename_i hentry
    rw [List.dropLast_concat] at h
    obtain ⟨s, es, habove, hgrants⟩ := grantsEntries_eq_true h
    refine ⟨s, es, rfl, habove, .inl ⟨?_, hgrants⟩⟩
    rw [← Node.at?_name habove]
    exact Option.map_eq_none_iff.mp hentry

theorem outcome_writeFile_of_accepts (hopen : v.released = false)
    (hroot : v.root.isDirectory = true) (h : v.accepts p = true) (now : Int) (mode : WriteMode)
    (data : Bytes) :
    ∃ w, outcome (writeFile now mode p.text data) v = (.ok (), w) ∧ w.released = false ∧
      ∀ q, w.root.entry q =
        if q = p then some (.file (v.fileAt p).1 (mode.combine data (v.fileAt p).2))
        else v.root.entry q := by
  obtain ⟨above, name, s, es, rfl, hw, hcases⟩ := exists_directory_of_accepts hroot h
  have hslot := slot_of_walk hopen (Path.parse?_text (above ++ [name])) hw
  rw [outcome_writeFile]
  rcases hcases with ⟨hfree, hgrants⟩ | ⟨t, old, hfile, hgrants⟩
  · have hwritable : v.writable (Path.text (above ++ [name])) = .ok ⟨above, s, es, name⟩ := by
      simp [writable, hslot, Slot.node?, hfree, demanded, Stamp.allows_flag, hgrants, Except.map]
    have hentry : v.root.entry (above ++ [name]) = none := by
      rw [Node.entry, Node.at?_name hw, hfree]
      rfl
    have hcombine : mode.combine data [] = data := by cases mode <;> rfl
    rw [hwritable]
    refine ⟨_, rfl, ?_, fun q => ?_⟩
    · simp only [filled, Slot.node?, hfree]
      exact hopen
    · simp only [filled, Slot.node?, hfree, fileAt, hentry, hcombine]
      exact Node.entry_insert hw hfree (fun _ _ => rfl) now q
  · have hwritable : v.writable (Path.text (above ++ [name])) = .ok ⟨above, s, es, name⟩ := by
      simp [writable, hslot, Slot.node?, hfile, demanded, Stamp.allows_flag, hgrants, Except.map]
    have hentry : v.root.entry (above ++ [name]) = some (.file t.mode old) := by
      rw [Node.entry, Node.at?_name hw, hfile]
      rfl
    rw [hwritable]
    refine ⟨_, rfl, ?_, fun q => ?_⟩
    · simp only [filled, Slot.node?, hfile]
      exact hopen
    · simp only [filled, Slot.node?, hfile, fileAt, hentry]
      refine (Node.entry_setData (mode.combine data) now (above ++ [name]) q v.root).trans ?_
      split
      · rename_i hq
        rw [hq, hentry]
        rfl
      · rfl

theorem fileText_encode (hopen : v.released = false) {spelling : Text}
    (hp : Path.parse? spelling = some p) {mode : Nat} {s : String}
    (hentry : v.root.entry p = some (.file mode (Utf8.encode s)))
    (hmode : mode / Access.read.ownerBit % 2 = 1) : v.fileText spelling "utf-8" = .ok s := by
  obtain ⟨child, hw, hchild⟩ := Node.entry_eq_some.mp hentry
  cases child with
  | directory t es => cases hchild
  | file t data =>
    obtain ⟨rfl, rfl⟩ := FlatEntry.file.inj hchild
    have hgrants : t.grants .read = true := by simp [Stamp.grants, hmode]
    have hdata : v.fileData spelling = .ok (Utf8.encode s) := by
      simp [fileData, find_of_parse? hopen hp, hw, demanded, Stamp.allows_flag, hgrants, Except.map]
    have hnull : ("utf-8".toList.contains '\x00') = false := by decide
    have hname : Encoding.ofName? "utf-8" = some .utf8 := by decide +kernel
    simp only [fileText, hdata, hnull, hname, Bool.false_eq_true, if_false, Encoding.decode,
      Utf8.decode_encode]

end MemoryShell.Volume
