import MemoryShell.Proofs.Volume.History
import MemoryShell.Proofs.Volume.Invocation

set_option autoImplicit false

namespace MemoryShell.Volume

/-- Something that is done to a volume. -/
inductive Use
  | performed (op : Operation)
  | called (r : Receiver) (method : String) (placed : List Argument) (named : Assignment)
  | released

def Use.apply (now : Int) : Use → Volume → Volume
  | .performed op, v => (outcome (op.perform now) v).2
  | .called r method placed named, v =>
    (outcome (Invocation.call r now method placed named) v).2
  | .released, v => v.release now

def used (v : Volume) (history : List (Int × Use)) : Volume :=
  history.foldl (fun v use => use.2.apply use.1 v) v

/-- A volume that has just come about: an empty one, or one that a JSON value describes. -/
inductive Started (now : Int) : Volume → Prop
  | empty : Started now (Volume.empty now)
  | loaded {json : Json} {v : Volume} (h : Snapshot.toVolume now json = .ok v) : Started now v

variable {I : Volume → Prop}

theorem Use.holds_apply (hperform : ∀ now (op : Operation) v, I v → I (outcome (op.perform now) v).2)
    (hrelease : ∀ now v, I v → I (v.release now)) (now : Int) (use : Use) {v : Volume} (hv : I v) :
    I (use.apply now v) := by
  cases use with
  | performed op => exact hperform now op v hv
  | called r method placed named =>
    have hcall : Keeps I (fun _ => True) (Invocation.call r now method placed named) :=
      Invocation.keeps_call (fun _ _ _ op _ => hperform now op) placed named
    exact (hcall v hv).2
  | released => exact hrelease now v hv

theorem holds_used (hperform : ∀ now (op : Operation) v, I v → I (outcome (op.perform now) v).2)
    (hrelease : ∀ now v, I v → I (v.release now)) (history : List (Int × Use)) {v : Volume}
    (hv : I v) : I (used v history) := by
  induction history generalizing v with
  | nil => exact hv
  | cons use rest ih => exact ih (use.2.holds_apply hperform hrelease use.1 hv)

theorem Started.changes {now : Int} {v : Volume} (h : Started now v) :
    Changes (fun _ => True) False (Volume.empty now) v := by
  cases h with
  | empty => exact .refl
  | @loaded json v h =>
    cases json with
    | object fields =>
      exact Snapshot.changes_of_toVolume (fun _ _ _ _ _ _ => trivial) h
    | _ => cases h

end MemoryShell.Volume
