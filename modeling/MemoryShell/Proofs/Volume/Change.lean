import Mathlib.Logic.Relation
import MemoryShell.Proofs.Tree.Everywhere
import MemoryShell.Proofs.Volume.Finding

set_option autoImplicit false

namespace MemoryShell.Volume

/-- One change of a volume. New entries have allowed names; modes change only if they may. -/
inductive Change (Allowed : Name → Prop) (Modes : Prop) (v : Volume) : Volume → Prop
  | newFile (now : Int) (p : Path) {name : Name} (data : Bytes) (h : Allowed name) :
      Change Allowed Modes v (v.placed now p name (.newFile now data))
  | newDirectory (now : Int) (p : Path) {name : Name} (h : Allowed name) :
      Change Allowed Modes v (v.placed now p name (.newDirectory now))
  | emptied (now : Int) (p : Path) (name : Name) :
      Change Allowed Modes v (v.emptied now p name)
  | data (now : Int) (p : Path) (g : Bytes → Bytes) :
      Change Allowed Modes v (v.changed p fun node => (node.setData g).touch now)
  | time (p : Path) (t : Json) : Change Allowed Modes v (v.changed p (Node.setTime t))
  | mode (p : Path) (m : Nat) (h : Modes) :
      Change Allowed Modes v (v.changed p (Node.mapStamp fun s => { s with mode := m }))

/-- Changes one after another. -/
abbrev Changes (Allowed : Name → Prop) (Modes : Prop) : Volume → Volume → Prop :=
  Relation.ReflTransGen (Change Allowed Modes)

variable {Allowed : Name → Prop} {Modes : Prop} {P : Node → Prop} {v w : Volume}

theorem Change.released (h : Change Allowed Modes v w) : w.released = v.released := by
  cases h <;> rfl

theorem Change.isDirectory (h : Change Allowed Modes v w) :
    w.root.isDirectory = v.root.isDirectory := by
  have hmodify : ∀ (f : Node → Node) (p : Path),
      (∀ node : Node, (f node).isDirectory = node.isDirectory) →
        (Node.modify f p v.root).isDirectory = v.root.isDirectory := by
    intro f p hf
    cases p with
    | nil => exact hf v.root
    | cons name rest => cases v.root <;> rfl
  cases h <;> exact hmodify _ _ fun node => by cases node <;> rfl

theorem Change.everywhere (hP : Node.Local P Allowed)
    (hmode : Modes → ∀ node m, P node → P (Node.mapStamp (fun s => { s with mode := m }) node))
    (h : Change Allowed Modes v w) (hv : v.root.Everywhere P) : w.root.Everywhere P := by
  cases h with
  | newFile now p data hname =>
    exact hv.modify hP fun child hc =>
      ((hv.below hc).insert hP hname (Node.everywhere_newFile hP now data)).setTime hP _
  | newDirectory now p hname =>
    exact hv.modify hP fun child hc =>
      ((hv.below hc).insert hP hname (Node.everywhere_newDirectory hP now)).setTime hP _
  | emptied now p name =>
    exact hv.modify hP fun child hc => ((hv.below hc).erase hP name).setTime hP _
  | data now p g =>
    exact hv.modify hP fun child hc => ((hv.below hc).setData hP g).setTime hP _
  | time p t => exact hv.modify hP fun child hc => (hv.below hc).setTime hP t
  | mode p m hm =>
    exact hv.modify hP fun child hc => (hv.below hc).mapStamp (hmode hm _ m (hv.below hc).here)

theorem Changes.released (h : Changes Allowed Modes v w) : w.released = v.released := by
  induction h with
  | refl => rfl
  | tail _ hstep ih => exact hstep.released.trans ih

theorem Changes.isDirectory (h : Changes Allowed Modes v w) :
    w.root.isDirectory = v.root.isDirectory := by
  induction h with
  | refl => rfl
  | tail _ hstep ih => exact hstep.isDirectory.trans ih

theorem Changes.everywhere (hP : Node.Local P Allowed)
    (hmode : Modes → ∀ node m, P node → P (Node.mapStamp (fun s => { s with mode := m }) node))
    (h : Changes Allowed Modes v w) (hv : v.root.Everywhere P) : w.root.Everywhere P := by
  induction h with
  | refl => exact hv
  | tail _ hstep ih => exact hstep.everywhere hP hmode ih

/-- Every name of the path of a spelling is allowed. -/
def NamesAllowed (Allowed : Name → Prop) (spelling : Text) : Prop :=
  ∀ p, Path.parse? spelling = some p → ∀ name ∈ p, Allowed name

theorem namesAllowed_text {p : Path} (h : ∀ name ∈ p, Allowed name) :
    NamesAllowed Allowed p.text := by
  intro q hq
  rw [Path.parse?_text] at hq
  exact Option.some.inj hq ▸ h

theorem NamesAllowed.slot {spelling : Text} (hname : NamesAllowed Allowed spelling) {slot : Slot}
    (h : v.slot spelling = .ok slot) : Allowed slot.name := by
  obtain ⟨-, hp, -⟩ := found_of_slot h
  exact hname slot.path hp slot.name (List.mem_append_right slot.directory List.mem_cons_self)

theorem changes_filled {spelling : Text} (hname : NamesAllowed Allowed spelling) {slot : Slot}
    (h : v.slot spelling = .ok slot) (now : Int) (mode : WriteMode) (data : Bytes) :
    Changes Allowed Modes v (v.filled now mode slot data) := by
  unfold filled
  cases slot.node? with
  | none => exact .single (.newFile now _ data (hname.slot h))
  | some node => exact .single (.data now _ _)

theorem changes_writeFile {spelling : Text} (hname : NamesAllowed Allowed spelling) (now : Int)
    (mode : WriteMode) (data : Bytes) (v : Volume) :
    Changes Allowed Modes v (outcome (writeFile now mode spelling data) v).2 := by
  rw [outcome_writeFile]
  cases hw : v.writable spelling with
  | error e => exact .refl
  | ok slot => exact changes_filled hname (slot_of_writable hw) now mode data

theorem changes_writeText {spelling : Text} (hname : NamesAllowed Allowed spelling) (now : Int)
    (mode : WriteMode) (t : Text) (v : Volume) :
    Changes Allowed Modes v (outcome (writeText now mode spelling t) v).2 := by
  rw [outcome_writeText]
  cases Utf8.encodeText? t with
  | none => exact .refl
  | some data => exact changes_writeFile hname now mode data v

theorem changes_makeDirectory {spelling : Text} (hname : NamesAllowed Allowed spelling) (now : Int)
    (v : Volume) : Changes Allowed Modes v (outcome (makeDirectory now spelling) v).2 := by
  rw [outcome_makeDirectory]
  cases hs : v.slot spelling with
  | error e => exact .refl
  | ok slot =>
    simp only
    cases slot.node? with
    | some node => exact .refl
    | none =>
      cases demanded slot.stamp Access.write.flag spelling with
      | error e => exact .refl
      | ok _ => exact .single (.newDirectory now _ (hname.slot hs))

theorem changes_makeBelow (now : Int) (spelling : Text) {rest : Path}
    (hrest : ∀ name ∈ rest, Allowed name) (above : Path) (v : Volume) :
    Changes Allowed Modes v (outcome (makeBelow now spelling above rest) v).2 := by
  induction rest generalizing above v with
  | nil => exact .refl
  | cons name rest ih =>
    have hname := hrest name List.mem_cons_self
    have hbelow := ih fun n hn => hrest n (List.mem_cons_of_mem name hn)
    rw [outcome_makeBelow_cons]
    rcases v.root.at? (above ++ [name]) with _ | (_ | _)
    · exact .head (.newDirectory now above hname) (hbelow _ _)
    · exact .refl
    · exact hbelow _ _

theorem changes_makeDirectories {spelling : Text} (hname : NamesAllowed Allowed spelling)
    (now : Int) (v : Volume) :
    Changes Allowed Modes v (outcome (makeDirectories now spelling) v).2 := by
  rw [outcome_makeDirectories]
  split
  · exact .refl
  · cases hp : Path.parse? spelling with
    | none => exact .refl
    | some p => exact changes_makeBelow now spelling (hname p hp) [] v

theorem changes_copyFile {destination : Text} (hname : NamesAllowed Allowed destination)
    (now : Int) (source : Text) (v : Volume) :
    Changes Allowed Modes v (outcome (copyFile now source destination) v).2 := by
  rw [outcome_copyFile]
  cases v.fileData source with
  | error e => exact .refl
  | ok data => exact changes_writeFile hname now .replace data v

theorem changes_remove (now : Int) (spelling : Text) (recursive force : Bool) (v : Volume) :
    Changes Allowed Modes v (outcome (remove now spelling recursive force) v).2 := by
  rw [outcome_remove]
  split
  · exact .refl
  · exact .refl
  · split
    · exact .refl
    · exact .single (.emptied now _ _)

theorem changes_setTimes (spelling : Text) (mtime : Json) (v : Volume) :
    Changes Allowed Modes v (outcome (setTimes spelling mtime) v).2 := by
  rw [outcome_setTimes]
  split
  · exact .refl
  · exact .single (.time _ _)

def Operation.targets : Operation → List Text
  | .write _ s _ => [s]
  | .makeDirectory s _ => [s]
  | .copyFile _ destination => [destination]
  | .exists _ | .stat _ | .access _ _ | .readDirectory _ | .read _ _ | .remove _ _ _
  | .setTimes _ _ | .setMode _ _ => []

theorem changes_perform_of_modes {op : Operation}
    (hname : ∀ s ∈ op.targets, NamesAllowed Allowed s)
    (hmode : ∀ s mode, op = .setMode s mode → Modes) (now : Int) (v : Volume) :
    Changes Allowed Modes v (outcome (op.perform now) v).2 := by
  cases op with
  | write mode s content =>
    rw [Operation.perform, outcome_silent]
    have hs := hname s List.mem_cons_self
    cases content with
    | text t => exact changes_writeText hs now mode t v
    | octets data => exact changes_writeFile hs now mode data v
  | makeDirectory s recursive =>
    have hs := hname s List.mem_cons_self
    cases recursive with
    | false =>
      rw [Operation.perform, outcome_silent]
      exact changes_makeDirectory hs now v
    | true =>
      rw [Operation.perform, outcome_silent]
      exact changes_makeDirectories hs now v
  | copyFile source destination =>
    rw [Operation.perform, outcome_silent]
    exact changes_copyFile (hname destination List.mem_cons_self) now source v
  | remove s recursive force =>
    rw [Operation.perform, outcome_silent]
    exact changes_remove now s recursive force v
  | setTimes s mtime =>
    rw [Operation.perform, outcome_silent]
    exact changes_setTimes s mtime v
  | setMode s mode =>
    rw [Operation.perform, outcome_silent, outcome_setMode]
    split
    · exact .refl
    · exact .single (.mode _ _ (hmode s mode rfl))
  | _ => rw [looks_perform _ rfl now v]

theorem changes_perform {op : Operation} (hname : ∀ s ∈ op.targets, NamesAllowed Allowed s)
    (now : Int) (v : Volume) : Changes Allowed True v (outcome (op.perform now) v).2 :=
  changes_perform_of_modes hname (fun _ _ _ => trivial) now v

end MemoryShell.Volume
