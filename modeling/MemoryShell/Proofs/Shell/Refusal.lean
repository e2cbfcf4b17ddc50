import MemoryShell.Proofs.Shell.Restoring
import MemoryShell.Proofs.Volume.Clash

/-!
How a snapshot is refused. A text that cannot be read as a value, a value that is no object, a key or
a content that says nothing: all of these are failures of a value. Fields that clash are not; they
fail as an operation on files does, and so does the restoring of a shell.
-/

set_option autoImplicit false

namespace MemoryShell

/-- Whether a failure is one of a value. -/
def Failure.IsValueError (f : Failure) : Prop :=
  f.label ∈ valueErrors

namespace Shell

open Snapshot (TextClash)

theorem loadVolume_string (now : Int) (t : Text) :
    loadVolume now (.string t) =
      (Snapshot.read now t).mapError .snapshot := by
  simp only [loadVolume, loadAny, Demand.snapshot, Demand.text]
  cases Snapshot.read now t with
  | ok w => rfl
  | error e => rfl

theorem loadVolume_eq_error_iff (now : Int) (t : Text)
    (hdepth : Json.parseText t ≠ .error .tooDeep) (f : Failure) :
    loadVolume now (.string t) = .error f ∧ ¬ f.IsValueError ↔
      ∃ errno named, TextClash now t errno named ∧
        f = .snapshot (.volume (.file errno named)) := by
  have hiff := Snapshot.read_eq_error_iff now t hdepth
  rw [loadVolume_string]
  constructor
  · rintro ⟨hfails, hnot⟩
    cases hread : Snapshot.read now t with
    | ok w =>
      rw [hread] at hfails
      cases hfails
    | error e =>
      rw [hread] at hfails
      cases hfails
      obtain ⟨errno, named, hclash, rfl⟩ := (hiff e).mp ⟨hread, hnot⟩
      exact ⟨errno, named, hclash, rfl⟩
  · rintro ⟨errno, named, hclash, rfl⟩
    obtain ⟨hread, hnot⟩ := (hiff _).mpr ⟨errno, named, hclash, rfl⟩
    rw [hread]
    exact ⟨rfl, hnot⟩

theorem fst_outcome_restore_eq_error_iff (s : Shell) (snapshot : Json) (f : Failure) :
    (outcome (restore snapshot) s).1 = .error f ↔ loadVolume s.clock snapshot = .error f := by
  cases hload : loadVolume s.clock snapshot with
  | ok w => simp [outcome_restore_of_describes (describes_iff.mpr hload)]
  | error g => simp [outcome_restore_of_error hload]

/-- Whether a volume is made of a text or of a value, or a shell is restored to a text, what fails
otherwise than as a wrong value is the first field that clashes with those before it: a file or a
directory below a file, a directory at one, a file at a directory or at the root. Such a clash fails
that way without exception. -/
theorem fails_as_value_or_by_clash (s : Shell) (t : Text)
    (hdepth : Json.parseText t ≠ .error .tooDeep) :
    (∀ f, loadVolume s.clock (.string t) = .error f ∧ ¬ f.IsValueError ↔
      ∃ errno named, TextClash s.clock t errno named ∧
        f = .snapshot (.volume (.file errno named))) ∧
    (∀ f, (outcome (restore (.string t)) s).1 = .error f ∧ ¬ f.IsValueError ↔
      ∃ errno named, TextClash s.clock t errno named ∧
        f = .snapshot (.volume (.file errno named))) ∧
    ∀ json e, Snapshot.toVolume s.clock json = .error e ∧ ¬ e.IsValueError ↔
      ∃ fields errno named, json = .object fields ∧
        Snapshot.FirstClash s.clock fields errno named ∧ e = .volume (.file errno named) := by
  have hload := loadVolume_eq_error_iff s.clock t hdepth
  refine ⟨hload, fun f => ?_, Snapshot.toVolume_eq_error_iff s.clock⟩
  rw [fst_outcome_restore_eq_error_iff]
  exact hload f

/-- A snapshot with a directory below a file: restoring it fails, and not as a wrong value. -/
theorem fails_as_value_or_by_clash_below_file :
    let t := Text.ofString "\x7b\"/a\": \"x\", \"/a/b\": null\x7d"
    ∃ first errno named, build 0 .usual builtins = .ok first ∧
      TextClash first.clock t errno named ∧
      (outcome (restore (.string t)) first).1 = .error (.snapshot (.volume (.file errno named))) ∧
      ¬ (Failure.snapshot (.volume (.file errno named))).IsValueError := by
  intro t
  obtain ⟨first, hfirst, hclock⟩ :
      ∃ first, build 0 .usual builtins = .ok first ∧ first.clock = 0 := ⟨_, rfl, rfl⟩
  have hdepth : Json.parseText t ≠ .error .tooDeep := by
    have hparses : (Json.parseText t).isOk = true := by decide +kernel
    intro h
    rw [h] at hparses
    cases hparses
  obtain ⟨hload, hrestore, -⟩ := fails_as_value_or_by_clash first t hdepth
  have hlabel : ((loadVolume first.clock (.string t)).mapError Failure.label).map (fun _ => ()) =
      .error "NotADirectoryError" := by
    rw [hclock]
    decide +kernel
  cases hrun : loadVolume first.clock (.string t) with
  | ok w =>
    rw [hrun] at hlabel
    cases hlabel
  | error f =>
    rw [hrun] at hlabel
    have hnot : ¬ f.IsValueError := by
      rw [Failure.IsValueError, Except.error.inj hlabel]
      decide
    obtain ⟨errno, named, hclash, rfl⟩ := (hload f).mp ⟨hrun, hnot⟩
    obtain ⟨hfails, -⟩ := (hrestore _).mpr ⟨errno, named, hclash, rfl⟩
    exact ⟨first, errno, named, hfirst, hclash, hfails, hnot⟩

end Shell

end MemoryShell
