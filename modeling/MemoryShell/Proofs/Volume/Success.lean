import MemoryShell.Proofs.Volume.Finding
import MemoryShell.Proofs.Volume.FlatView

set_option autoImplicit false

namespace MemoryShell.Volume

variable {now : Int} {spelling : Text} {v w : Volume}

theorem ok_of_silent {x : VolumeM Unit} {value : Value}
    (h : outcome (silent x) v = (.ok value, w)) : outcome x v = (.ok (), w) := by
  rw [outcome_silent] at h
  rcases hx : outcome x v with ⟨e | _, u⟩
  · rw [hx] at h
    cases h
  · rw [hx] at h
    obtain rfl := (Prod.mk.inj h).2
    rfl

theorem writeFile_ok {mode : WriteMode} {data : Bytes}
    (h : outcome (writeFile now mode spelling data) v = (.ok (), w)) :
    ∃ slot, v.slot spelling = .ok slot ∧
      ((slot.node? = none ∧ slot.stamp.grants .write = true ∧
          w = v.placed now slot.directory slot.name (.newFile now data)) ∨
        ∃ s old, slot.node? = some (.file s old) ∧ s.grants .write = true ∧
          w = v.changed slot.path fun node => (node.setData (mode.combine data)).touch now) := by
  rw [outcome_writeFile] at h
  cases hwritable : v.writable spelling with
  | error e =>
    rw [hwritable] at h
    cases h
  | ok slot =>
    rw [hwritable] at h
    obtain rfl := (Prod.mk.inj h).2
    obtain ⟨hslot, hcases⟩ := writable_cases hwritable
    refine ⟨slot, hslot, ?_⟩
    rcases hcases with ⟨hfree, hgrants⟩ | ⟨s, old, hfile, hgrants⟩
    · exact .inl ⟨hfree, hgrants, by simp only [filled, hfree]⟩
    · exact .inr ⟨s, old, hfile, hgrants, by simp only [filled, hfile]⟩

theorem writeContent_ok {mode : WriteMode} {content : Content}
    (h : outcome (writeContent now mode spelling content) v = (.ok (), w)) :
    ∃ data, outcome (writeFile now mode spelling data) v = (.ok (), w) := by
  cases content with
  | octets data => exact ⟨data, h⟩
  | text t =>
    rw [writeContent, outcome_writeText] at h
    cases hdata : Utf8.encodeText? t with
    | none =>
      rw [hdata] at h
      cases h
    | some data =>
      rw [hdata] at h
      exact ⟨data, h⟩

theorem copyFile_ok {source : Text} (h : outcome (copyFile now source spelling) v = (.ok (), w)) :
    ∃ data, outcome (writeFile now .replace spelling data) v = (.ok (), w) := by
  rw [outcome_copyFile] at h
  cases hdata : v.fileData source with
  | error e =>
    rw [hdata] at h
    cases h
  | ok data =>
    rw [hdata] at h
    exact ⟨data, h⟩

theorem makeDirectory_ok (h : outcome (makeDirectory now spelling) v = (.ok (), w)) :
    ∃ slot, v.slot spelling = .ok slot ∧ slot.node? = none ∧ slot.stamp.grants .write = true ∧
      w = v.placed now slot.directory slot.name (.newDirectory now) := by
  rw [outcome_makeDirectory] at h
  cases hslot : v.slot spelling with
  | error e =>
    rw [hslot] at h
    cases h
  | ok slot =>
    simp only [hslot] at h
    cases hfree : slot.node? with
    | some node =>
      rw [hfree] at h
      cases h
    | none =>
      by_cases hgrants : slot.stamp.grants .write = true
      · simp only [hfree, demanded, Stamp.allows_flag, if_pos hgrants] at h
        exact ⟨slot, rfl, hfree, hgrants, (Prod.mk.inj h).2.symm⟩
      · simp only [hfree, demanded, Stamp.allows_flag, if_neg hgrants] at h
        cases h

theorem remove_ok {recursive force : Bool}
    (h : outcome (remove now spelling recursive force) v = (.ok (), w)) :
    ((∃ t, v.occupied spelling = .error (.file .noEntry t)) ∧ w = v) ∨
      ∃ slot node, v.slot spelling = .ok slot ∧ slot.node? = some node ∧
        w = v.emptied now slot.directory slot.name := by
  rw [outcome_remove] at h
  split at h
  · rename_i t hmissing
    exact .inl ⟨⟨t, hmissing⟩, (Prod.mk.inj h).2.symm⟩
  · cases h
  · rename_i slot node hoccupied
    split at h
    · cases h
    · obtain ⟨hslot, hnode⟩ := filled_of_occupied hoccupied
      exact .inr ⟨slot, node, hslot, hnode, (Prod.mk.inj h).2.symm⟩

theorem entry_eq_none_of_missing {p : Path} (hp : Path.parse? spelling = some p) {t : Text}
    (h : v.occupied spelling = .error (.file .noEntry t)) : v.root.entry p = none := by
  unfold occupied slot at h
  rw [hp] at h
  cases hl : p.getLast? with
  | none => simp [hl] at h
  | some name =>
    obtain ⟨above, rfl⟩ : ∃ above, p = above ++ [name] :=
      ⟨p.dropLast, (List.dropLast_append_getLast? name hl).symm⟩
    simp only [List.getLast?_concat, List.dropLast_concat] at h
    rcases hf : v.find (Path.text above) with e | (⟨s, data⟩ | ⟨s, es⟩)
    · rw [hf] at h
      obtain rfl := Except.error.inj h
      simp only [find, Path.parse?_text] at hf
      split at hf
      · cases hf
      · cases hw : v.root.walk above with
        | error e => exact Node.entry_eq_none.mpr ⟨e, Node.walk_append_error hw [name]⟩
        | ok node =>
          rw [hw] at hf
          cases hf
    · rw [hf] at h
      cases h
    · rw [hf] at h
      cases hnode : Entries.find? es name with
      | none =>
        have hw := (isOpen_of_find hf).2 (Path.parse?_text above)
        rw [Node.entry, Node.at?_name hw, hnode]
        rfl
      | some node => simp [Slot.node?, hnode] at h

theorem setTimes_ok {mtime : Json} (h : outcome (setTimes spelling mtime) v = (.ok (), w)) :
    ∃ p, Path.parse? spelling = some p ∧ w = v.changed p (Node.setTime mtime) := by
  rw [outcome_setTimes] at h
  cases hfind : v.find spelling with
  | error e =>
    rw [hfind] at h
    cases h
  | ok node =>
    obtain ⟨-, p, hp, -⟩ := found_of_find hfind
    rw [hfind, hp] at h
    exact ⟨p, hp, (Prod.mk.inj h).2.symm⟩

theorem setMode_ok {mode : Int} (h : outcome (setMode spelling mode) v = (.ok (), w)) :
    ∃ p, Path.parse? spelling = some p ∧
      w = v.changed p (Node.mapStamp fun s => { s with mode := (mode % 0o1000).toNat }) := by
  rw [outcome_setMode] at h
  cases hfind : v.find spelling with
  | error e =>
    rw [hfind] at h
    cases h
  | ok node =>
    obtain ⟨-, p, hp, -⟩ := found_of_find hfind
    rw [hfind, hp] at h
    exact ⟨p, hp, (Prod.mk.inj h).2.symm⟩

end MemoryShell.Volume
