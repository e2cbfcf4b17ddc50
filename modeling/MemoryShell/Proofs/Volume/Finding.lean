import MemoryShell.Proofs.Tree.Walk
import MemoryShell.Proofs.Volume.Run

set_option autoImplicit false

namespace MemoryShell.Volume

variable {v : Volume} {spelling : Text} {p : Path} {node : Node} {slot : Slot}

theorem find_of_parse? (hr : v.released = false) (hp : Path.parse? spelling = some p) :
    v.find spelling = (v.root.walk p).mapError fun e => .file e spelling := by
  simp [find, hr, hp]

theorem found_of_find (h : v.find spelling = .ok node) :
    v.released = false ∧ ∃ p, Path.parse? spelling = some p ∧ v.root.walk p = .ok node := by
  unfold find at h
  split at h
  · cases h
  · rename_i hr
    split at h
    · cases h
    · rename_i p hp
      refine ⟨Bool.eq_false_iff.mpr hr, p, hp, ?_⟩
      cases hw : v.root.walk p with
      | error e => simp [hw] at h
      | ok child =>
        rw [hw, mapError_ok] at h
        rw [Except.ok.inj h]

theorem walk_of_find (h : v.find spelling = .ok node) : ∃ p, v.root.walk p = .ok node := by
  obtain ⟨-, p, -, hw⟩ := found_of_find h
  exact ⟨p, hw⟩

theorem isOpen_of_find (h : v.find spelling = .ok node) :
    v.released = false ∧ ∀ {p}, Path.parse? spelling = some p → v.root.walk p = .ok node := by
  obtain ⟨hr, p, hp, hw⟩ := found_of_find h
  exact ⟨hr, fun hq => Option.some.inj (hp.symm.trans hq) ▸ hw⟩

theorem found_of_slot (h : v.slot spelling = .ok slot) :
    v.released = false ∧ Path.parse? spelling = some slot.path ∧
      v.root.walk slot.directory = .ok (.directory slot.stamp slot.entries) := by
  unfold Volume.slot at h
  cases hp : Path.parse? spelling with
  | none => simp [hp] at h
  | some p =>
    simp only [hp] at h
    cases hl : p.getLast? with
    | none => simp [hl] at h
    | some name =>
      simp only [hl] at h
      rcases hf : v.find (Path.text p.dropLast) with e | (_ | _)
      · simp [hf] at h
      · simp [hf] at h
      · rw [hf] at h
        obtain rfl := Except.ok.inj h
        have hpath : p = p.dropLast ++ [name] := (List.dropLast_append_getLast? name hl).symm
        refine (isOpen_of_find hf).imp_right fun hwalk => ⟨congrArg some hpath, ?_⟩
        exact hwalk (Path.parse?_text p.dropLast)

theorem walk_of_slot (h : v.slot spelling = .ok slot) :
    v.root.walk slot.directory = .ok (.directory slot.stamp slot.entries) :=
  (found_of_slot h).2.2

theorem at?_of_slot (h : v.slot spelling = .ok slot) : v.root.at? slot.path = slot.node? :=
  Node.at?_name (walk_of_slot h) slot.name

theorem free_of_missing {e : Error} (h : v.find spelling = .error e)
    (hslot : v.slot spelling = .ok slot) : slot.node? = none := by
  obtain ⟨hr, hp, -⟩ := found_of_slot hslot
  rw [find_of_parse? hr hp] at h
  have hat : v.root.at? slot.path = none := by
    unfold Node.at?
    cases hw : v.root.walk slot.path with
    | error e => rfl
    | ok node => simp [hw] at h
  rw [← at?_of_slot hslot, hat]

theorem writable_cases (h : v.writable spelling = .ok slot) :
    v.slot spelling = .ok slot ∧
      ((slot.node? = none ∧ slot.stamp.grants .write = true) ∨
        ∃ s data, slot.node? = some (.file s data) ∧ s.grants .write = true) := by
  unfold writable at h
  cases hs : v.slot spelling with
  | error e => simp [hs] at h
  | ok other =>
    simp only [hs, demanded, Stamp.allows_flag] at h
    rcases hn : other.node? with _ | (⟨s, data⟩ | _) <;> simp only [hn] at h
    · split at h
      · obtain rfl := Except.ok.inj h
        exact ⟨rfl, .inl ⟨hn, by assumption⟩⟩
      · cases h
    · split at h
      · obtain rfl := Except.ok.inj h
        exact ⟨rfl, .inr ⟨s, data, hn, by assumption⟩⟩
      · cases h
    · cases h

theorem slot_of_writable (h : v.writable spelling = .ok slot) : v.slot spelling = .ok slot :=
  (writable_cases h).1

theorem filled_of_occupied (h : v.occupied spelling = .ok (slot, node)) :
    v.slot spelling = .ok slot ∧ slot.node? = some node := by
  unfold occupied at h
  cases hs : v.slot spelling with
  | error e => simp [hs] at h
  | ok other =>
    simp only [hs] at h
    cases hn : other.node? with
    | none => simp [hn] at h
    | some child =>
      rw [hn] at h
      obtain ⟨rfl, rfl⟩ := Prod.mk.inj (Except.ok.inj h)
      exact ⟨rfl, hn⟩

theorem slot_failure (hr : v.released = false) (hp : Path.parse? spelling = some p) {e : Error}
    (h : v.slot spelling = .error e) : ∃ errno t, e = .file errno t := by
  simp only [slot, hp] at h
  cases hl : p.getLast? with
  | none =>
    rw [hl] at h
    exact ⟨_, _, (Except.error.inj h).symm⟩
  | some name =>
    simp only [hl, find_of_parse? hr (Path.parse?_text p.dropLast)] at h
    rcases hw : v.root.walk p.dropLast with errno | (_ | _) <;>
      simp only [hw, mapError_ok, mapError_error] at h
    · exact ⟨_, _, (Except.error.inj h).symm⟩
    · exact ⟨_, _, (Except.error.inj h).symm⟩
    · cases h

theorem writable_failure (hr : v.released = false) (hp : Path.parse? spelling = some p) {e : Error}
    (h : v.writable spelling = .error e) : ∃ errno t, e = .file errno t := by
  have hdemanded : ∀ {stamp : Stamp} {slot : Slot},
      (demanded stamp Access.write.flag spelling).map (fun _ => slot) = .error e →
        ∃ errno t, e = .file errno t := by
    intro stamp slot hd
    unfold demanded at hd
    split at hd
    · cases hd
    · exact ⟨_, _, (Except.error.inj hd).symm⟩
  unfold writable at h
  cases hs : v.slot spelling with
  | error f =>
    rw [hs] at h
    exact Except.error.inj h ▸ slot_failure hr hp hs
  | ok slot =>
    rw [hs] at h
    rcases hn : slot.node? with _ | (_ | _) <;> simp only [hn] at h
    · exact hdemanded h
    · exact hdemanded h
    · exact ⟨_, _, (Except.error.inj h).symm⟩

end MemoryShell.Volume
