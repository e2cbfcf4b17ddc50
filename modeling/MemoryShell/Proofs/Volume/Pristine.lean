import MemoryShell.Proofs.Volume.RoundTrip
import MemoryShell.Proofs.Volume.Twins

set_option autoImplicit false

namespace MemoryShell

namespace Node

def Fresh : Node → Prop
  | .file s _ => s.mode = Stamp.fileMode
  | .directory s _ => s.mode = Stamp.directoryMode

theorem fresh_local {Allowed : Name → Prop} : Local Fresh Allowed where
  update _ _ h := h
  insert _ _ _ h := h
  erase _ h := h
  setTime {node} t h := by cases node <;> exact h
  setData {node} g h := by cases node <;> exact h
  newFile _ _ := rfl
  newDirectory _ := rfl

theorem toEntry_of_fresh {node : Node} (h : Fresh node) : node.toEntry = node.shape.fresh := by
  cases node with
  | file s data => exact congrArg (FlatEntry.file · data) h
  | directory s es => exact congrArg FlatEntry.directory h

theorem entry_of_fresh {root : Node} (h : root.Everywhere Fresh) (p : Path) :
    root.entry p = (root.content p).map Shape.fresh := by
  rw [entry, content, at?]
  cases hw : root.walk p with
  | error e => rfl
  | ok child => exact congrArg some (toEntry_of_fresh (h p child hw))

end Node

namespace Volume

open Snapshot

/-- An open volume in which no mode was set by hand. -/
structure Pristine (v : Volume) : Prop where
  wellFormed : WellFormed v
  isOpen : v.released = false
  fresh : v.root.Everywhere Node.Fresh

variable {v w : Volume}

theorem pristine_empty (now : Int) : Pristine (empty now) where
  wellFormed := wellFormed_empty now
  isOpen := rfl
  fresh := by
    have hlocal : Node.Local Node.Fresh fun _ => True := Node.fresh_local
    exact Node.everywhere_newDirectory hlocal now

theorem Pristine.changes {Allowed : Name → Prop} (hv : Pristine v) (h : Changes Allowed False v w) :
    Pristine w where
  wellFormed := hv.wellFormed.changes h
  isOpen := h.released.trans hv.isOpen
  fresh := h.everywhere Node.fresh_local (fun hmode => hmode.elim) hv.fresh

theorem pristine_of_read {now : Int} {t : Text} (h : read now t = .ok v) : Pristine v := by
  have hchanges : Changes (fun _ => True) False (empty now) v :=
    changes_of_read (fun _ _ _ _ _ _ _ _ => trivial) h
  exact (pristine_empty now).changes hchanges

theorem Pristine.exists_twin (hv : Pristine v) (hn : v.root.Everywhere (Node.NamesIn Spellable))
    {text : String} (hwrite : write v = .ok text) (now : Int) :
    ∃ w, read now text = .ok w ∧ Twins v w := by
  obtain ⟨-, -, rfl⟩ := writeWithin_eq_ok_iff.mp hwrite
  obtain ⟨w, hw, hopen, hentry⟩ := exists_read hv.wellFormed hn now
  refine ⟨w, hw, hv.wellFormed, (wellFormed_of_read hw).1, hv.isOpen, hopen, fun p => ?_⟩
  rw [Node.entry_of_fresh hv.fresh, hentry]

theorem Twins.write_eq (h : Twins v w) : write v = write w := by
  have hsame : v.root.SameContent w.root := by
    intro p
    rw [Node.content_eq_entry, Node.content_eq_entry, h.same]
  unfold write writeWithin ofVolume
  rw [h.openLeft, h.openRight, h.height, entries_eq_of_sameContent h.left.root h.right.root
    h.left.ordered h.right.ordered hsame]

end Volume

end MemoryShell
