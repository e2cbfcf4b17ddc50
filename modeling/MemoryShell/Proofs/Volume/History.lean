import MemoryShell.Proofs.Volume.Change
import MemoryShell.Volume.Snapshot

set_option autoImplicit false

namespace MemoryShell

namespace Volume

/-- Something that happens to a volume. A snapshot that does not load changes nothing. -/
inductive Event
  | performed (op : Operation)
  | loaded (snapshot : Text)
  | loadedOctets (snapshot : Bytes)
  | released

def Event.apply (now : Int) : Event → Volume → Volume
  | .performed op, v => (outcome (op.perform now) v).2
  | .loaded snapshot, v => (Snapshot.read now snapshot).toOption.getD v
  | .loadedOctets snapshot, v => (Snapshot.readOctets now snapshot).toOption.getD v
  | .released, v => v.release now

def after (start : Int) (history : List (Int × Event)) : Volume :=
  history.foldl (fun v event => event.2.apply event.1 v) (empty start)

end Volume

namespace Snapshot

open Volume

variable {Allowed : Name → Prop} {Modes : Prop}

theorem changes_loadEntry {key : Text} (hkey : NamesAllowed Allowed key) (now : Int)
    (content : Json) (v : Volume) :
    Changes Allowed Modes v (outcome (loadEntry now key content) v).2 := by
  unfold loadEntry
  cases hp : Path.parse? key with
  | none => exact .refl
  | some p =>
    have hparent : NamesAllowed Allowed (Path.text p.dropLast) :=
      namesAllowed_text fun name hname => hkey p hp name (List.dropLast_subset p hname)
    cases content with
    | null => exact changes_makeDirectories hkey now v
    | string t =>
      simp only [outcome_adapt, outcome_bind]
      have hmade : Changes Allowed Modes v _ := changes_makeDirectories hparent now v
      rcases hrun : outcome (makeDirectories now (Path.text p.dropLast)) v with ⟨_ | _, w⟩
      · rw [hrun] at hmade
        exact hmade
      · rw [hrun] at hmade
        exact hmade.trans (changes_writeText hkey now .replace t w)
    | _ => exact .refl

theorem changes_loadEntries {fields : List (Text × Json)}
    (hkeys : ∀ field ∈ fields, NamesAllowed Allowed field.1) (now : Int) (v : Volume) :
    Changes Allowed Modes v (outcome (loadEntries now fields) v).2 := by
  induction fields generalizing v with
  | nil => exact .refl
  | cons field rest ih =>
    obtain ⟨key, content⟩ := field
    have hhead : Changes Allowed Modes v _ :=
      changes_loadEntry (hkeys _ List.mem_cons_self) now content v
    rw [loadEntries, outcome_bind]
    rcases hrun : outcome (loadEntry now key content) v with ⟨_ | _, w⟩
    · rw [hrun] at hhead
      exact hhead
    · rw [hrun] at hhead
      exact hhead.trans (ih (fun f hf => hkeys f (List.mem_cons_of_mem _ hf)) w)

theorem changes_of_toVolume {now : Int} {fields : List (Text × Json)}
    (hkeys : ∀ field ∈ fields, NamesAllowed Allowed field.1) {v : Volume}
    (h : toVolume now (.object fields) = .ok v) : Changes Allowed Modes (empty now) v := by
  have hload : Changes Allowed Modes (empty now) _ := changes_loadEntries hkeys now (empty now)
  change (match outcome (loadEntries now fields) (empty now) with
    | (.ok _, v) => Except.ok v
    | (.error e, _) => .error e) = .ok v at h
  rcases hrun : outcome (loadEntries now fields) (empty now) with ⟨_ | _, w⟩
  · rw [hrun] at h
    cases h
  · rw [hrun] at h hload
    obtain rfl := Except.ok.inj h
    exact hload

theorem changes_of_read {now : Int} {t : Text}
    (hkeys : ∀ fields, Json.parseText t = .ok (.object fields) →
      ∀ field ∈ fields, NamesAllowed Allowed field.1)
    {v : Volume} (h : read now t = .ok v) : Changes Allowed Modes (empty now) v := by
  unfold read at h
  split at h
  · rename_i json hjson
    cases json with
    | object fields => exact changes_of_toVolume (hkeys fields hjson) h
    | _ => cases h
  · cases h

end Snapshot

namespace Volume

/-- The root is a directory, and every directory keeps its entries in order. -/
structure WellFormed (v : Volume) : Prop where
  root : v.root.isDirectory = true
  ordered : v.root.Everywhere Node.InOrder

theorem wellFormed_empty (now : Int) : WellFormed (empty now) := by
  have hlocal : Node.Local Node.InOrder fun _ => True := Node.inOrder_local
  exact ⟨rfl, Node.everywhere_newDirectory hlocal now⟩

theorem WellFormed.changes {v w : Volume} {Allowed : Name → Prop} {Modes : Prop}
    (hv : WellFormed v) (h : Changes Allowed Modes v w) : WellFormed w where
  root := h.isDirectory.trans hv.root
  ordered := h.everywhere Node.inOrder_local (fun _ node m hn => by cases node <;> exact hn)
    hv.ordered

theorem WellFormed.perform {v : Volume} (hv : WellFormed v) (op : Operation) (now : Int) :
    WellFormed (outcome (op.perform now) v).2 := by
  have hchanges : Changes (fun _ => True) True v (outcome (op.perform now) v).2 :=
    changes_perform (fun _ _ _ _ _ _ => trivial) now v
  exact hv.changes hchanges

theorem wellFormed_of_read {now : Int} {t : Text} {v : Volume}
    (h : Snapshot.read now t = .ok v) : WellFormed v ∧ v.released = false := by
  have hchanges : Changes (fun _ => True) True (empty now) v :=
    Snapshot.changes_of_read (fun _ _ _ _ _ _ _ _ => trivial) h
  exact ⟨(wellFormed_empty now).changes hchanges, hchanges.released⟩

theorem WellFormed.apply {v : Volume} (hv : WellFormed v) (now : Int) (e : Event) :
    WellFormed (e.apply now v) := by
  have hread : ∀ t, WellFormed ((Snapshot.read now t).toOption.getD v) := by
    intro t
    cases hr : Snapshot.read now t with
    | error f => exact hv
    | ok w => exact (wellFormed_of_read hr).1
  cases e with
  | performed op => exact hv.perform op now
  | loaded snapshot => exact hread snapshot
  | loadedOctets snapshot =>
    rw [Event.apply, Snapshot.readOctets]
    cases Json.textOfOctets? snapshot with
    | none => exact hv
    | some t => exact hread t
  | released => exact ⟨rfl, (wellFormed_empty now).ordered⟩

theorem wellFormed_after (start : Int) (history : List (Int × Event)) :
    WellFormed (after start history) := by
  have hrun : ∀ v, WellFormed v →
      WellFormed (history.foldl (fun v event => event.2.apply event.1 v) v) := by
    induction history with
    | nil => exact fun v hv => hv
    | cons event rest ih => exact fun v hv => ih _ (hv.apply event.1 event.2)
  exact hrun _ (wellFormed_empty start)

end Volume

end MemoryShell
