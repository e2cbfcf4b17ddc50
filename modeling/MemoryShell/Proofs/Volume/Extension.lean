import MemoryShell.Proofs.Volume.Finding
import MemoryShell.Proofs.Volume.FlatView

set_option autoImplicit false

namespace MemoryShell

namespace Node

/-- Whatever stands in a tree stands in another one as it is. -/
def Extended (x y : Node) : Prop :=
  ∀ p e, x.entry p = some e → y.entry p = some e

theorem Extended.refl (x : Node) : x.Extended x :=
  fun _ _ he => he

theorem Extended.trans {x y z : Node} (hxy : x.Extended y) (hyz : y.Extended z) : x.Extended z :=
  fun p e he => hyz p e (hxy p e he)

theorem Extended.modify {x : Node} {p : Path} {f : Node → Node}
    (h : ∀ child, x.walk p = .ok child → child.Extended (f child)) :
    x.Extended (modify f p x) := by
  intro q e he
  by_cases hpq : p <+: q
  · obtain ⟨r, rfl⟩ := hpq
    rw [entry_append] at he
    obtain ⟨child, hchild, hr⟩ := Option.bind_eq_some_iff.mp he
    rw [entry_modify_append, hchild, Option.bind_some]
    exact h child (at?_eq_some.mp hchild) r e hr
  · rw [entry_modify_beside f hpq]
    exact he

theorem entry_file_cons (s : Stamp) (data : Bytes) (name : Name) (rest : Path) :
    (file s data).entry (name :: rest) = none :=
  entry_eq_none.mpr ⟨_, walk_file_cons s data name rest⟩

theorem extended_file {s t : Stamp} (data : Bytes) (hmode : t.mode = s.mode) :
    (file s data).Extended (file t data) := by
  intro p e he
  cases p with
  | nil =>
    obtain rfl := Option.some.inj ((entry_nil _).symm.trans he)
    rw [entry_nil, toEntry, toEntry, hmode]
  | cons name rest =>
    rw [entry_file_cons] at he
    cases he

theorem extended_directory {s t : Stamp} {es fs : Entries} (hmode : t.mode = s.mode)
    (h : ∀ name x, Entries.find? es name = some x → Entries.find? fs name = some x) :
    (directory s es).Extended (directory t fs) := by
  intro p e he
  cases p with
  | nil =>
    obtain rfl := Option.some.inj ((entry_nil _).symm.trans he)
    rw [entry_nil, toEntry, toEntry, hmode]
  | cons name rest =>
    rw [entry_directory_cons] at he ⊢
    obtain ⟨x, hx, hrest⟩ := Option.bind_eq_some_iff.mp he
    rw [h name x hx]
    exact hrest

end Node

namespace Volume

abbrev Extended (v w : Volume) : Prop :=
  v.root.Extended w.root

theorem extended_placed {v : Volume} {p : Path} {name : Name}
    (hfree : v.root.at? (p ++ [name]) = none) (now : Int) (new : Node) :
    v.Extended (v.placed now p name new) := by
  refine Node.Extended.modify fun child hw => ?_
  cases child with
  | file s data => exact Node.extended_file data rfl
  | directory s es =>
    refine Node.extended_directory rfl fun other x hx => ?_
    have hne : name ≠ other := by
      rintro rfl
      rw [Node.at?_name hw, hx] at hfree
      cases hfree
    rw [Entries.find?_insert_of_ne es new hne]
    exact hx

theorem extended_makeDirectory (now : Int) (spelling : Text) (v : Volume) :
    v.Extended (outcome (makeDirectory now spelling) v).2 := by
  rw [outcome_makeDirectory]
  cases hs : v.slot spelling with
  | error e => exact .refl _
  | ok slot =>
    have hat := at?_of_slot hs
    simp only
    cases hn : slot.node? with
    | some node => exact .refl _
    | none =>
      rw [hn] at hat
      cases demanded slot.stamp Access.write.flag spelling with
      | error e => exact .refl _
      | ok _ => exact extended_placed hat now _

theorem extended_makeBelow (now : Int) (spelling : Text) (rest above : Path) (v : Volume) :
    v.Extended (outcome (makeBelow now spelling above rest) v).2 := by
  -- only names that are free are made; a directory that is there is gone through
  induction rest generalizing above v with
  | nil => exact .refl _
  | cons name rest ih =>
    rw [outcome_makeBelow_cons]
    cases hat : v.root.at? (above ++ [name]) with
    | none => exact (extended_placed hat now _).trans (ih _ _)
    | some node =>
      cases node with
      | file s data => exact .refl _
      | directory s es => exact ih _ v

theorem extended_makeDirectories (now : Int) (spelling : Text) (v : Volume) :
    v.Extended (outcome (makeDirectories now spelling) v).2 := by
  rw [outcome_makeDirectories]
  split
  · exact .refl _
  · split
    · exact .refl _
    · exact extended_makeBelow now spelling _ [] v

theorem extended_setTimes (spelling : Text) (mtime : Json) (v : Volume) :
    v.Extended (outcome (setTimes spelling mtime) v).2 := by
  rw [outcome_setTimes]
  split
  · exact .refl _
  · intro p e he
    exact (Node.entry_setTime mtime _ p v.root).trans he

theorem extended_writeFile_of_missing {v : Volume} {spelling : Text} {e : Error}
    (h : v.find spelling = .error e) (now : Int) (mode : WriteMode) (data : Bytes) :
    v.Extended (outcome (writeFile now mode spelling data) v).2 := by
  rw [outcome_writeFile]
  cases hw : v.writable spelling with
  | error e => exact .refl _
  | ok slot =>
    have hslot : v.slot spelling = .ok slot := slot_of_writable hw
    have hfree : slot.node? = none := free_of_missing h hslot
    have hat : v.root.at? slot.path = none := (at?_of_slot hslot).trans hfree
    simp only [filled, hfree]
    exact extended_placed hat now _

end Volume

end MemoryShell
