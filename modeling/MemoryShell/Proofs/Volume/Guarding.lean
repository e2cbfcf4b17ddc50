import MemoryShell.Proofs.Volume.Atomic
import MemoryShell.Proofs.Volume.Overlay
import MemoryShell.Proofs.Volume.Success

/-!
Where new entries turn up. An operation adds an entry only to a directory that grants writing, with one
exception. Making a directory together with the missing ones above it adds its first entry to the last
directory on the way that is there, and never asks whether that one grants writing.
-/

set_option autoImplicit false

namespace MemoryShell.Volume

/-- An entry was added to a directory that had been there. -/
structure Added (v w : Volume) (p : Path) (name : Name) : Prop where
  directory : ∃ mode, v.root.entry p = some (.directory mode)
  free : v.root.entry (p ++ [name]) = none
  there : w.root.entry (p ++ [name]) ≠ none

variable {v w : Volume} {spelling : Text} {p above : Path} {name made : Name}

theorem grantsEntries_of_walk {s : Stamp} {es : Entries}
    (hw : v.root.walk p = .ok (.directory s es)) : v.grantsEntries p = s.grants .write := by
  rw [grantsEntries, Node.entry_of_walk hw]
  rfl

theorem not_added_of_missing (h : ∀ q, v.root.entry q = none → w.root.entry q = none) :
    ¬ Added v w p name :=
  fun hadded => hadded.there (h _ hadded.free)

theorem not_added_self : ¬ Added v v p name :=
  not_added_of_missing fun _ h => h

theorem added_placed_iff {s : Stamp} {es : Entries}
    (hw : v.root.walk above = .ok (.directory s es)) (hfree : Entries.find? es made = none)
    {new : Node} (hnew : ∀ n rest, new.entry (n :: rest) = none) (now : Int) :
    Added v (v.placed now above made new) p name ↔ p = above ∧ name = made := by
  have hentry : ∀ q, (v.placed now above made new).root.entry q =
      if q = above ++ [made] then some new.toEntry else v.root.entry q :=
    Node.entry_insert hw hfree hnew now
  constructor
  · rintro ⟨-, hmissing, hthere⟩
    rw [hentry] at hthere
    by_contra hne
    rw [if_neg (by simpa using hne)] at hthere
    exact hthere hmissing
  · rintro ⟨rfl, rfl⟩
    refine ⟨⟨s.mode, Node.entry_of_walk hw⟩, ?_, ?_⟩
    · rw [Node.entry, Node.at?_name hw, hfree]
      rfl
    · rw [hentry, if_pos rfl]
      exact Option.some_ne_none _

theorem eq_directory_of_added_placed {slot : Slot} (hslot : v.slot spelling = .ok slot)
    (hfree : slot.node? = none) {new : Node} (hnew : ∀ n rest, new.entry (n :: rest) = none)
    {now : Int} (h : Added v (v.placed now slot.directory slot.name new) p name) :
    p = slot.directory :=
  ((added_placed_iff (walk_of_slot hslot) hfree hnew now).mp h).1

theorem exists_ok_of_added {ε α : Type} {x : ExceptT ε (StateM Volume) α} (hx : AllOrNothing x)
    (h : Added v (outcome x v).2 p name) : ∃ a w, outcome x v = (.ok a, w) ∧ Added v w p name := by
  cases hresult : (outcome x v).1 with
  | error e =>
    rw [hx v e hresult] at h
    exact absurd h not_added_self
  | ok a => exact ⟨a, _, Prod.ext hresult rfl, h⟩

theorem grants_of_added_writeFile {now : Int} {mode : WriteMode} {data : Bytes}
    (hrun : outcome (writeFile now mode spelling data) v = (.ok (), w)) (h : Added v w p name) :
    v.grantsEntries p = true := by
  obtain ⟨slot, hslot, ⟨hfree, hgrants, rfl⟩ | ⟨s, old, hfile, -, rfl⟩⟩ := writeFile_ok hrun
  · obtain rfl := eq_directory_of_added_placed hslot hfree (fun _ _ => rfl) h
    rw [grantsEntries_of_walk (walk_of_slot hslot), hgrants]
  · -- in a file that is there only its data are changed
    refine absurd h (not_added_of_missing fun q hq => ?_)
    refine (Node.entry_setData (mode.combine data) now slot.path q v.root).trans ?_
    rw [hq]
    exact ite_self none

theorem grants_of_added_makeDirectory {now : Int}
    (hrun : outcome (makeDirectory now spelling) v = (.ok (), w)) (h : Added v w p name) :
    v.grantsEntries p = true := by
  obtain ⟨slot, hslot, hfree, hgrants, rfl⟩ := makeDirectory_ok hrun
  obtain rfl := eq_directory_of_added_placed hslot hfree (fun _ _ => rfl) h
  rw [grantsEntries_of_walk (walk_of_slot hslot), hgrants]

theorem not_added_remove {now : Int} {recursive force : Bool}
    (hrun : outcome (remove now spelling recursive force) v = (.ok (), w)) :
    ¬ Added v w p name := by
  rcases remove_ok hrun with ⟨-, rfl⟩ | ⟨slot, node, hslot, -, rfl⟩
  · exact not_added_self
  · refine not_added_of_missing fun q hq => ?_
    refine (Node.entry_erase (walk_of_slot hslot) slot.name now q).trans ?_
    rw [hq]
    exact ite_self none

theorem grants_of_added_perform {op : Operation} (hop : ∀ s, op ≠ .makeDirectory s true) {now : Int}
    (h : Added v (outcome (op.perform now) v).2 p name) : v.grantsEntries p = true := by
  obtain ⟨value, w, hrun, hadded⟩ := exists_ok_of_added (allOrNothing_perform now op) h
  cases op with
  | write mode s content =>
    obtain ⟨data, hwrite⟩ := writeContent_ok (ok_of_silent hrun)
    exact grants_of_added_writeFile hwrite hadded
  | makeDirectory s recursive =>
    cases recursive with
    | true => exact absurd rfl (hop s)
    | false => exact grants_of_added_makeDirectory (ok_of_silent hrun) hadded
  | copyFile source destination =>
    obtain ⟨data, hwrite⟩ := copyFile_ok (ok_of_silent hrun)
    exact grants_of_added_writeFile hwrite hadded
  | remove s recursive force => exact absurd hadded (not_added_remove (ok_of_silent hrun))
  | setTimes s mtime =>
    obtain ⟨r, -, rfl⟩ := setTimes_ok (ok_of_silent hrun)
    exact absurd hadded
      (not_added_of_missing fun q hq => (Node.entry_setTime mtime r q v.root).trans hq)
  | setMode s mode =>
    obtain ⟨r, -, rfl⟩ := setMode_ok (ok_of_silent hrun)
    refine absurd hadded (not_added_of_missing fun q hq => ?_)
    refine (Node.entry_setMode _ r q v.root).trans ?_
    rw [hq]
    exact ite_self none
  | _ =>
    rw [looks_perform _ rfl now v] at h
    exact absurd h not_added_self

section

variable (hopen : v.released = false) (now : Int) {s : Stamp} {es : Entries} {rest : Path}

include hopen

theorem outcome_makeDirectories_of_missing (hp : Path.parse? spelling = some (above ++ name :: rest))
    (hw : v.root.walk above = .ok (.directory s es)) (hfree : Entries.find? es name = none) :
    outcome (makeDirectories now spelling) v =
      outcome (makeBelow now spelling (above ++ [name]) rest)
        (v.placed now above name (.newDirectory now)) := by
  have hat : v.root.at? (above ++ [name]) = none := (Node.at?_name hw name).trans hfree
  rw [outcome_makeDirectories, hopen, hp]
  simp only [Bool.false_eq_true, if_false]
  rw [outcome_makeBelow_append now spelling [] (name :: rest) hw, List.nil_append,
    outcome_makeBelow_cons, hat]

theorem makeDirectories_succeeds_of_missing
    (hp : Path.parse? spelling = some (above ++ name :: rest))
    (hw : v.root.walk above = .ok (.directory s es)) (hfree : Entries.find? es name = none) :
    (outcome (makeDirectories now spelling) v).1 = .ok () := by
  rw [outcome_makeDirectories_of_missing hopen now hp hw hfree]
  exact makeBelow_of_bare now spelling rest fun next => at?_below_placed now v above name next

theorem added_makeDirectories_iff (hroot : v.root.isDirectory = true) :
    Added v (outcome (makeDirectories now spelling) v).2 above name ↔
      (∃ mode, v.root.entry above = some (.directory mode)) ∧
        v.root.entry (above ++ [name]) = none ∧
        ∃ p, Path.parse? spelling = some p ∧ above ++ [name] <+: p := by
  cases hp : Path.parse? spelling with
  | none =>
    rw [outcome_makeDirectories, hopen, hp]
    exact iff_of_false not_added_self fun ⟨_, _, _, h, _⟩ => by cases h
  | some p =>
    have hmissing : (∃ mode, v.root.entry above = some (.directory mode)) →
        v.root.entry (above ++ [name]) = none → above ++ [name] <+: p →
        (outcome (makeDirectories now spelling) v).1 = .ok () := by
      rintro ⟨mode, hdirectory⟩ hfree ⟨rest, rfl⟩
      obtain ⟨s, es, hw, -⟩ := Node.entry_eq_directory.mp hdirectory
      have hpath : Path.parse? spelling = some (above ++ name :: rest) := by simpa using hp
      refine makeDirectories_succeeds_of_missing hopen now hpath hw ?_
      rw [← Node.at?_name hw]
      exact Option.map_eq_none_iff.mp hfree
    rcases makeDirectories_cases hopen hroot hp now with ⟨e, t, hfails⟩ | ⟨w, hmade, -, hdown⟩
    · rw [hfails] at hmissing ⊢
      refine iff_of_false not_added_self ?_
      rintro ⟨hdirectory, hfree, q, hq, hpre⟩
      obtain rfl := Option.some.inj hq
      cases hmissing hdirectory hfree hpre
    · rw [hmade]
      constructor
      · rintro ⟨hdirectory, hfree, hthere⟩
        refine ⟨hdirectory, hfree, p, rfl, ?_⟩
        by_contra hpre
        exact hthere ((hdown.entry _).trans (by rw [if_neg fun h => hpre h.1, hfree]))
      · rintro ⟨hdirectory, hfree, q, hq, hpre⟩
        obtain rfl := Option.some.inj hq
        refine ⟨hdirectory, hfree, ?_⟩
        rw [hdown.entry, if_pos ⟨hpre, hfree⟩]
        exact Option.some_ne_none _

theorem outcome_makings_denied (hp : Path.parse? spelling = some (above ++ [name]))
    (hw : v.root.walk above = .ok (.directory s es)) (hfree : Entries.find? es name = none)
    (hdenied : s.grants .write = false) :
    outcome (makeDirectory now spelling) v = (.error (.file .accessDenied spelling), v) ∧
      outcome (makeDirectories now spelling) v =
        (.ok (), v.placed now above name (.newDirectory now)) := by
  constructor
  · rw [outcome_makeDirectory, slot_of_walk hopen hp hw]
    simp [Slot.node?, hfree, demanded, Stamp.allows_flag, hdenied]
  · exact outcome_makeDirectories_of_missing hopen now hp hw hfree

theorem outcome_makings_granted (hp : Path.parse? spelling = some (above ++ [name]))
    (hw : v.root.walk above = .ok (.directory s es)) (hfree : Entries.find? es name = none)
    (hgrants : s.grants .write = true) :
    outcome (makeDirectory now spelling) v = outcome (makeDirectories now spelling) v := by
  rw [outcome_makeDirectories_of_missing hopen now hp hw hfree, outcome_makeDirectory,
    slot_of_walk hopen hp hw]
  simp [Slot.node?, hfree, demanded, Stamp.allows_flag, hgrants]

theorem outcome_makings_file (hp : Path.parse? spelling = some (above ++ [name])) {data : Bytes}
    (hroot : v.root.isDirectory = true) (hw : v.root.walk above = .ok (.file s data)) :
    outcome (makeDirectory now spelling) v = outcome (makeDirectories now spelling) v := by
  obtain ⟨before, last, rfl⟩ : ∃ before last, above = before ++ [last] := by
    refine ⟨above.dropLast, above.getLast ?_, (List.dropLast_append_getLast _).symm⟩
    rintro rfl
    rw [Node.walk_nil] at hw
    rw [Except.ok.inj hw] at hroot
    cases hroot
  have hslot : v.slot spelling = .error (.file .notDirectory spelling) := by
    simp only [slot, hp, List.getLast?_concat, List.dropLast_concat,
      find_of_parse? hopen (Path.parse?_text (before ++ [last])), hw, mapError_ok]
  have hpath : Path.parse? spelling = some (before ++ last :: [name]) := by simpa using hp
  rw [outcome_makeDirectory, hslot, outcome_makeDirectories_file now hopen hpath hw]

end

/-- On an open volume every operation adds entries only to directories that grant writing, but for the
making of directories together with the missing ones above. This adds one just where it is missing on
the way in a directory that is there, of whatever mode. So where only the last name of a path is
missing, the two ways of making a directory come to the same if and only if what stands above does not
deny writing as a directory. If it does, then the one fails and the other makes the directory. -/
theorem entries_added_as_granted (hopen : v.released = false) (hroot : v.root.isDirectory = true)
    (now : Int) :
    (∀ op p name, (∀ s, op ≠ Operation.makeDirectory s true) →
      Added v (outcome (op.perform now) v).2 p name → v.grantsEntries p = true) ∧
    ∀ spelling,
      (∀ above name,
        Added v (outcome ((Operation.makeDirectory spelling true).perform now) v).2 above name ↔
          (∃ mode, v.root.entry above = some (.directory mode)) ∧
            v.root.entry (above ++ [name]) = none ∧
            ∃ p, Path.parse? spelling = some p ∧ above ++ [name] <+: p) ∧
      ∀ above name, Path.parse? spelling = some (above ++ [name]) →
        v.root.entry above ≠ none → v.root.entry (above ++ [name]) = none →
          (outcome ((Operation.makeDirectory spelling false).perform now) v =
              outcome ((Operation.makeDirectory spelling true).perform now) v ↔
            ∀ mode, v.root.entry above = some (.directory mode) → v.grantsEntries above = true) ∧
          ∀ mode, v.root.entry above = some (.directory mode) → v.grantsEntries above = false →
            outcome ((Operation.makeDirectory spelling false).perform now) v =
                (.error (.file .accessDenied spelling), v) ∧
              outcome ((Operation.makeDirectory spelling true).perform now) v =
                (.ok .nothing, v.placed now above name (.newDirectory now)) := by
  refine ⟨fun op p name hop h => grants_of_added_perform hop h, fun spelling => ⟨?_, ?_⟩⟩
  · intro above name
    rw [Operation.perform, outcome_silent]
    exact added_makeDirectories_iff hopen now hroot
  · intro above name hp hthere hmissing
    have hfree : ∀ {s es}, v.root.walk above = .ok (.directory s es) →
        Entries.find? es name = none := fun hw => by
      rw [← Node.at?_name hw]
      exact Option.map_eq_none_iff.mp hmissing
    have hdenied : ∀ mode, v.root.entry above = some (.directory mode) →
        v.grantsEntries above = false →
          outcome ((Operation.makeDirectory spelling false).perform now) v =
              (.error (.file .accessDenied spelling), v) ∧
            outcome ((Operation.makeDirectory spelling true).perform now) v =
              (.ok .nothing, v.placed now above name (.newDirectory now)) := by
      intro mode hdirectory hdenies
      obtain ⟨s, es, hw, -⟩ := Node.entry_eq_directory.mp hdirectory
      rw [grantsEntries_of_walk hw] at hdenies
      obtain ⟨hplain, hdown⟩ := outcome_makings_denied hopen now hp hw (hfree hw) hdenies
      rw [Operation.perform, Operation.perform, outcome_silent, outcome_silent, hplain, hdown]
      exact ⟨rfl, rfl⟩
    refine ⟨⟨fun hsame mode hdirectory => ?_, fun hgrants => ?_⟩, hdenied⟩
    · by_contra hdenies
      obtain ⟨hplain, hdown⟩ := hdenied mode hdirectory (Bool.eq_false_iff.mpr hdenies)
      rw [hplain, hdown] at hsame
      cases (Prod.mk.inj hsame).1
    · rw [Operation.perform, Operation.perform, outcome_silent, outcome_silent]
      obtain ⟨e, he⟩ := Option.ne_none_iff_exists'.mp hthere
      obtain ⟨child, hw, -⟩ := Node.entry_eq_some.mp he
      cases child with
      | file s data => rw [outcome_makings_file hopen now hp hroot hw]
      | directory s es =>
        have hallowed := hgrants s.mode (Node.entry_of_walk hw)
        rw [grantsEntries_of_walk hw] at hallowed
        rw [outcome_makings_granted hopen now hp hw (hfree hw) hallowed]

/-- In a directory that denies writing a missing directory is made if the ones above it may be made
too. -/
theorem entries_added_as_granted_denied :
    let made := (outcome (makeDirectory 0 (.ofString "/d")) (empty 0)).2
    let v := (outcome (setMode (.ofString "/d") 0o555) made).2
    outcome ((Operation.makeDirectory (.ofString "/d/x") false).perform 0) v =
        (.error (.file .accessDenied (.ofString "/d/x")), v) ∧
      outcome ((Operation.makeDirectory (.ofString "/d/x") true).perform 0) v =
        (.ok .nothing, v.placed 0 [⟨.ofString "d", by decide⟩] ⟨.ofString "x", by decide⟩
          (.newDirectory 0)) := by
  intro made v
  obtain ⟨-, hmakings⟩ := entries_added_as_granted (v := v) rfl rfl 0
  obtain ⟨-, hways⟩ := hmakings (.ofString "/d/x")
  obtain ⟨-, hdenied⟩ := hways [⟨.ofString "d", by decide⟩] ⟨.ofString "x", by decide⟩ rfl
    (by exact Option.some_ne_none _) rfl
  exact hdenied 0o555 rfl rfl

end MemoryShell.Volume
