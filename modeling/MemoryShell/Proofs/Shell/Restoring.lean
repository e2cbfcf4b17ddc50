import MemoryShell.Proofs.Session.Store
import MemoryShell.Proofs.Shell.Resumable

/-!
Restoring is all or nothing. A snapshot is read into a volume of its own before anything of the shell
is touched, so either that volume takes the place of the old one, or the shell stays as it was. What
the shell does from then on depends on the new volume and not on the old one, which is released.
-/

set_option autoImplicit false

namespace MemoryShell

/-- A value is a text that parses, and a volume is what it describes, all of it made now. -/
def Snapshot.Describes (now : Int) (snapshot : Json) (w : Volume) : Prop :=
  ∃ t json, snapshot = .string t ∧ Json.parseText t = .ok json ∧
    toVolume now json = .ok w

namespace Shell

open Snapshot (Describes)

theorem describes_iff {now : Int} {snapshot : Json} {w : Volume} :
    Describes now snapshot w ↔ loadVolume now snapshot = .ok w := by
  rw [loadVolume_eq_ok_iff]
  constructor
  · rintro ⟨t, json, ht, hjson, hw⟩
    exact ⟨t, ht, by simp only [Snapshot.read, hjson, hw]⟩
  · rintro ⟨t, ht, hread⟩
    rw [Snapshot.read] at hread
    split at hread
    · rename_i json hjson
      exact ⟨t, json, ht, hjson, hread⟩
    · cases hread

theorem outcome_restore_of_describes {s : Shell} {snapshot : Json} {w : Volume}
    (h : Describes s.clock snapshot w) :
    outcome (restore snapshot) s = (.ok (s.volume.release s.clock), { s with volume := w }) := by
  unfold restore
  rw [outcome_bind, outcome_get]
  simp only [describes_iff.mp h]
  rfl

theorem outcome_restore_of_error {s : Shell} {snapshot : Json} {f : Failure}
    (h : loadVolume s.clock snapshot = .error f) :
    outcome (restore snapshot) s = (.error f, s) := by
  unfold restore
  rw [outcome_bind, outcome_get]
  simp only [h]
  rfl

theorem restore_cases (s : Shell) (snapshot : Json) :
    (∃ w, Describes s.clock snapshot w ∧
      outcome (restore snapshot) s = (.ok (s.volume.release s.clock), { s with volume := w })) ∨
    ((∀ w, ¬ Describes s.clock snapshot w) ∧
      ∃ f, outcome (restore snapshot) s = (.error f, s)) := by
  cases hload : loadVolume s.clock snapshot with
  | ok w =>
    have hdescribes := describes_iff.mpr hload
    exact .inl ⟨w, hdescribes, outcome_restore_of_describes hdescribes⟩
  | error f =>
    refine .inr ⟨fun w hw => ?_, f, outcome_restore_of_error hload⟩
    rw [describes_iff, hload] at hw
    cases hw

theorem sustained_since (config : Config) (w : Volume) :
    Sustained config fun s => s.config = config ∧ Since w s.volume where
  config hs := hs.1
  entered hs _ := hs
  changed hs _ h := ⟨hs.1, hs.2.trans h⟩
  noted hs _ := hs
  heard hs _ := hs
  hooked hs _ _ := hs
  counted hs _ := hs

theorem since_after (s : Shell) {history : List (Int × Event)}
    (hstaying : ∀ event ∈ history, event.2.Staying) :
    Since s.volume (after s history).volume := by
  suffices hrun : ∀ t : Shell, t.config = s.config ∧ Since s.volume t.volume →
      (after t history).config = s.config ∧ Since s.volume (after t history).volume from
    (hrun s ⟨rfl, .refl⟩).2
  unfold after
  induction history with
  | nil => exact fun t ht => ht
  | cons event rest ih =>
    intro t ht
    have hact := (sustained_since s.config s.volume).keeps_act
      (hstaying event List.mem_cons_self) { t with clock := event.1 } ht
    exact ih (fun e he => hstaying e (List.mem_cons_of_mem _ he)) _ hact.2

theorem run_restoreInto (session : Text) (s : Shell) (store : Session.Store) :
    (Session.Store.restoreInto session s).run store =
      (match OrderedMap.find? store.entries (Session.key session) with
        | none => (.ok false, s)
        | some text =>
          ((outcome (restore (.ofString text)) s).1.map fun _ => true,
            (outcome (restore (.ofString text)) s).2),
        { store with calls := store.calls ++ [.get (Session.key session)] }) := by
  rw [Session.Store.restoreInto, StateT.run_bind, Session.Store.run_load, Session.Store.text?]
  generalize OrderedMap.find? store.entries (Session.key session) = found
  cases found with
  | none => rfl
  | some text =>
    rcases hrun : (restore (.ofString text)).run.run s with ⟨r, t⟩
    simp only [bind, outcome, hrun]
    rfl

/-- A restored shell has the volume that the snapshot describes, whatever volume it had before, and
everything else as it was; it gives back the volume that it had, released, and all that happens later,
until the shell is closed or restored again, happens to the new one. A shell that is not restored is exactly what it was,
and that is the case only if the snapshot describes nothing. Restoring from a store is the same for
the text that is stored, and does nothing if none is; the store only notes that it was asked. -/
theorem restore_all_or_nothing (s : Shell) (snapshot : Json) :
    ((∃ w, Describes s.clock snapshot w ∧ w.released = false ∧ Volume.WellFormed w ∧
        (s.volume.release s.clock).released = true ∧
        outcome (restore snapshot) s =
          (.ok (s.volume.release s.clock), { s with volume := w }) ∧
        (∀ v, (outcome (restore snapshot) { s with volume := v }).2 = { s with volume := w }) ∧
        ∀ history : List (Int × Event), (∀ event ∈ history, event.2.Staying) →
          Since w (after { s with volume := w } history).volume ∧
            (after { s with volume := w } history).volume.released = false) ∨
      ((∀ w, ¬ Describes s.clock snapshot w) ∧
        ∃ f, outcome (restore snapshot) s = (.error f, s))) ∧
    ∀ (session : Text) (store : Session.Store),
      ((Session.Store.restoreInto session s).run store).2 =
          { store with calls := store.calls ++ [.get (Session.key session)] } ∧
        (OrderedMap.find? store.entries (Session.key session) = none →
          ((Session.Store.restoreInto session s).run store).1 = (.ok false, s)) ∧
        ∀ text, OrderedMap.find? store.entries (Session.key session) = some text →
          (∃ w, Describes s.clock (.ofString text) w ∧
            ((Session.Store.restoreInto session s).run store).1 =
              (.ok true, { s with volume := w })) ∨
          ((∀ w, ¬ Describes s.clock (.ofString text) w) ∧
            ∃ f, ((Session.Store.restoreInto session s).run store).1 = (.error f, s)) := by
  constructor
  · rcases restore_cases s snapshot with ⟨w, hdescribes, hrun⟩ | hfails
    · obtain ⟨hformed, hopen⟩ := wellFormed_of_loadVolume (describes_iff.mp hdescribes)
      refine .inl ⟨w, hdescribes, hopen, hformed, rfl, hrun, fun v => ?_, fun history h => ?_⟩
      · rw [outcome_restore_of_describes (s := { s with volume := v }) hdescribes]
      · have hsince := since_after { s with volume := w } h
        exact ⟨hsince, hsince.released.trans hopen⟩
    · exact .inr hfails
  · intro session store
    rw [run_restoreInto]
    refine ⟨rfl, fun hnone => by simp only [hnone], fun text hsome => ?_⟩
    simp only [hsome]
    rcases restore_cases s (.ofString text) with ⟨w, hdescribes, hrun⟩ | ⟨hnot, f, hrun⟩
    · exact .inl ⟨w, hdescribes, by rw [hrun]; rfl⟩
    · exact .inr ⟨hnot, f, by rw [hrun]; rfl⟩

/-- A snapshot of one file is restored and then written over; a snapshot in which a directory lies
below a file is not restored. -/
theorem restore_all_or_nothing_conflict :
    let good := Json.ofString "\x7b\"/a\": \"hi\"\x7d"
    let bad := Json.ofString "\x7b\"/a\": \"hi\", \"/a/b\": null\x7d"
    let history : List (Int × Event) := [(1, .executed (.ofString "echo ho > /a"))]
    ∃ first w, build 0 .usual builtins = .ok first ∧ Describes first.clock good w ∧
      outcome (restore good) first =
        (.ok (first.volume.release first.clock), { first with volume := w }) ∧
      Since w (after { first with volume := w } history).volume ∧
      ∃ f, outcome (restore bad) first = (.error f, first) := by
  intro good bad history
  obtain ⟨first, hfirst, hclock⟩ :
      ∃ first, build 0 .usual builtins = .ok first ∧ first.clock = 0 := ⟨_, rfl, rfl⟩
  obtain ⟨hgood, -⟩ := restore_all_or_nothing first good
  obtain ⟨hbad, -⟩ := restore_all_or_nothing first bad
  have hloads : (loadVolume first.clock good).isOk = true := by
    rw [hclock]
    decide +kernel
  have hconflict : (loadVolume first.clock bad).isOk = false := by
    rw [hclock]
    decide +kernel
  rcases hgood with ⟨w, hw, -, -, -, hrun, -, hlater⟩ | ⟨hnone, -⟩
  · refine ⟨first, w, hfirst, hw, hrun, (hlater history ?_).1, ?_⟩
    · intro event hevent
      obtain rfl := List.mem_singleton.mp hevent
      trivial
    · rcases hbad with ⟨w', hw', -⟩ | ⟨-, hfails⟩
      · rw [describes_iff.mp hw'] at hconflict
        cases hconflict
      · exact hfails
  · cases hload : loadVolume first.clock good with
    | ok w => exact absurd (describes_iff.mpr hload) (hnone w)
    | error f =>
      rw [hload] at hloads
      cases hloads

end Shell

end MemoryShell
