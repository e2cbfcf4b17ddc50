import MemoryShell.Proofs.Shell.Restoring
import MemoryShell.Proofs.Volume.Atomic
import MemoryShell.Proofs.Volume.Use

/-!
A release is for good. A volume that was released, by itself, by closing its shell or by restoring
another one in its place, is empty and stays so. Every operation on it fails and changes nothing: some
look at the spelling of a place first and complain about that, all others only say that the volume is
released.
-/

set_option autoImplicit false

namespace MemoryShell

namespace Volume

/-- Released, with nothing left but an empty root. -/
def Gone (v : Volume) : Prop :=
  v.released = true ∧ ∃ now, v.root = .newDirectory now

def placeRefusal (spelling : Text) : Error :=
  match Path.parse? spelling with
  | none => .relative spelling
  | some [] => .file .notPermitted spelling
  | some (_ :: _) => .released

/-- Why an operation fails on a released volume. A text without octets is complained about before
anything else. -/
def Operation.refusal : Operation → Error
  | .write _ s (.text t) => if (Utf8.encodeText? t).isNone then .unencodable else placeRefusal s
  | .write _ s (.octets _) | .makeDirectory s false | .remove s _ _ => placeRefusal s
  | .exists _ | .stat _ | .access _ _ | .readDirectory _ | .read _ _ | .makeDirectory _ true
  | .copyFile _ _ | .setTimes _ _ | .setMode _ _ => .released

theorem gone_release (now : Int) (v : Volume) : Gone (v.release now) :=
  ⟨rfl, now, rfl⟩

section

variable {v : Volume} (hv : v.released = true) (spelling : Text)

include hv

theorem find_of_released : v.find spelling = .error .released := by
  rw [find, if_pos hv]

theorem slot_of_released : v.slot spelling = .error (placeRefusal spelling) := by
  unfold slot placeRefusal
  cases hp : Path.parse? spelling with
  | none => rfl
  | some p =>
    cases p with
    | nil => rfl
    | cons n p =>
      simp only [List.getLast?_eq_some_getLast (List.cons_ne_nil n p), find_of_released hv]

theorem writable_of_released : v.writable spelling = .error (placeRefusal spelling) := by
  rw [writable, slot_of_released hv]

theorem occupied_of_released : v.occupied spelling = .error (placeRefusal spelling) := by
  rw [occupied, slot_of_released hv]

theorem fileData_of_released : v.fileData spelling = .error .released := by
  rw [fileData, find_of_released hv]

theorem outcome_writeFile_of_released (now : Int) (mode : WriteMode) (data : Bytes) :
    outcome (writeFile now mode spelling data) v = (.error (placeRefusal spelling), v) := by
  rw [outcome_writeFile, writable_of_released hv]

theorem outcome_remove_of_released (now : Int) (recursive force : Bool) :
    outcome (remove now spelling recursive force) v = (.error (placeRefusal spelling), v) := by
  rw [outcome_remove, occupied_of_released hv]
  unfold placeRefusal
  rcases Path.parse? spelling with _ | (_ | _) <;> rfl

omit spelling in
theorem outcome_perform_of_released (now : Int) (op : Operation) :
    outcome (op.perform now) v = (.error op.refusal, v) := by
  have hfind := find_of_released hv
  cases op with
  | «exists» s =>
    rw [Operation.perform, outcome_map, outcome_exists?, hfind]
    rfl
  | stat s =>
    rw [Operation.perform, outcome_map, outcome_stat, hfind]
    rfl
  | access s request =>
    rw [Operation.perform, outcome_silent, outcome_access, hfind]
    rfl
  | readDirectory s =>
    rw [Operation.perform, outcome_map, outcome_readDirectory, hfind]
    rfl
  | read s encoding =>
    cases encoding with
    | none =>
      rw [Operation.perform, outcome_map, outcome_readFile, fileData_of_released hv]
      rfl
    | some name =>
      rw [Operation.perform, outcome_map, outcome_readText, fileText, fileData_of_released hv]
      rfl
  | write mode s content =>
    rw [Operation.perform, outcome_silent]
    cases content with
    | octets data =>
      rw [writeContent, outcome_writeFile_of_released hv]
      rfl
    | text t =>
      rw [writeContent, outcome_writeText, Operation.refusal]
      cases Utf8.encodeText? t with
      | none => rfl
      | some data =>
        simp only [outcome_writeFile_of_released hv]
        rfl
  | makeDirectory s recursive =>
    cases recursive with
    | false =>
      rw [Operation.perform, outcome_silent, outcome_makeDirectory, slot_of_released hv]
      rfl
    | true =>
      rw [Operation.perform, outcome_silent, outcome_makeDirectories, if_pos hv]
      rfl
  | copyFile source destination =>
    rw [Operation.perform, outcome_silent, outcome_copyFile, fileData_of_released hv]
    rfl
  | remove s recursive force =>
    rw [Operation.perform, outcome_silent, outcome_remove_of_released hv]
    rfl
  | setTimes s mtime =>
    rw [Operation.perform, outcome_silent, outcome_setTimes, hfind]
    rfl
  | setMode s mode =>
    rw [Operation.perform, outcome_silent, outcome_setMode, hfind]
    rfl

end

variable {v : Volume}

theorem Gone.used (hv : Gone v) (history : List (Int × Use)) : Gone (used v history) :=
  holds_used (fun now op v hv => by rwa [outcome_perform_of_released hv.1])
    (fun now v _ => gone_release now v) history hv

theorem Gone.outcome_call (hv : Gone v) (r : Receiver) (now : Int) (method : String)
    (placed : List Argument) (named : Assignment) :
    ∃ e, outcome (Invocation.call r now method placed named) v = (.error e, v) := by
  have hcall : Keeps Gone (fun _ => False) (Invocation.call r now method placed named) := by
    refine Invocation.keeps_call_of_keeps (fun m hm a op hop w hw => ?_) placed named
    rw [outcome_perform_of_released hw.1]
    exact ⟨fun _ h => (by cases h), hw⟩
  cases hr : (outcome (Invocation.call r now method placed named) v).1 with
  | ok value => exact ((hcall v hv).1 value hr).elim
  | error e =>
    have hsame := Invocation.allOrNothing_call r now method placed named v e hr
    exact ⟨e, Prod.ext hr hsame⟩

end Volume

open Volume

/-- A released volume is gone, and so are the volume of a closed shell and one that was replaced by
restoring a snapshot. Whatever is done to a volume that is gone, it stays gone: each operation is
refused, each call by name fails whatever its arguments are, neither changes anything, and there is no
snapshot of it. -/
theorem released_for_good :
    (∀ (v : Volume) now, Gone (v.release now)) ∧
    (∀ s : Shell, ∃ t, outcome Shell.close s = (.ok (), t) ∧ Gone t.volume) ∧
    (∀ (s t : Shell) snapshot old, outcome (Shell.restore snapshot) s = (.ok old, t) →
      old = s.volume.release s.clock ∧ Gone old) ∧
    ∀ v, Gone v → ∀ history,
      Gone (used v history) ∧
      (∀ (op : Operation) now,
        outcome (op.perform now) (used v history) = (.error op.refusal, used v history)) ∧
      (∀ r now method placed named, ∃ e,
        outcome (Invocation.call r now method placed named) (used v history) =
          (.error e, used v history)) ∧
      Snapshot.write (used v history) = .error .released := by
  refine ⟨fun v now => gone_release now v, fun s => ⟨_, rfl, gone_release s.clock s.volume⟩,
    fun s t snapshot old h => ?_, fun v hv history => ?_⟩
  · rcases Shell.restore_cases s snapshot with ⟨w, -, hrun⟩ | ⟨-, f, hrun⟩
    · obtain ⟨hold, -⟩ := Prod.mk.inj (hrun.symm.trans h)
      obtain rfl := Except.ok.inj hold
      exact ⟨rfl, gone_release s.clock s.volume⟩
    · cases (Prod.mk.inj (hrun.symm.trans h)).1
  · have hgone := hv.used history
    refine ⟨hgone, fun op now => outcome_perform_of_released hgone.1 now op,
      hgone.outcome_call, ?_⟩
    exact Snapshot.writeWithin_eq_released hgone.1

/-- The volume of a new shell is gone once a snapshot was restored: it does not even forgive what is
missing, and only a spelling of no place is complained about otherwise. -/
theorem released_for_good_restored :
    ∃ first t old, Shell.build 0 .usual Shell.builtins = .ok first ∧
      outcome (Shell.restore (.ofString "\x7b\x7d")) first = (.ok old, t) ∧
      let w := used old [(1, .performed (.write .append (.ofString "/f") (.octets [104])))]
      Gone w ∧
        outcome ((Operation.remove (.ofString "/f") true true).perform 2) w =
          (.error .released, w) ∧
        outcome ((Operation.remove (.ofString "/f/..") true true).perform 2) w =
          (.error (.file .notPermitted (.ofString "/f/..")), w) ∧
        outcome ((Operation.makeDirectory (.ofString "f") false).perform 2) w =
          (.error (.relative (.ofString "f")), w) := by
  obtain ⟨-, -, hrestored, hgone⟩ := released_for_good
  obtain ⟨first, hfirst, hclock⟩ :
      ∃ first, Shell.build 0 .usual Shell.builtins = .ok first ∧ first.clock = 0 := ⟨_, rfl, rfl⟩
  have hloads : (Shell.loadVolume first.clock (.ofString "\x7b\x7d")).isOk = true := by
    rw [hclock]
    decide +kernel
  rcases Shell.restore_cases first (.ofString "\x7b\x7d") with ⟨v, hv, hrun⟩ | ⟨hnone, -⟩
  · obtain ⟨-, hold⟩ := hrestored _ _ _ _ hrun
    obtain ⟨hstill, hperform, -⟩ := hgone _ hold
      [(1, .performed (.write .append (.ofString "/f") (.octets [104])))]
    exact ⟨first, _, _, hfirst, hrun, hstill, hperform _ 2, hperform _ 2, hperform _ 2⟩
  · cases hload : Shell.loadVolume first.clock (.ofString "\x7b\x7d") with
    | ok w => exact absurd (Shell.describes_iff.mpr hload) (hnone w)
    | error f =>
      rw [hload] at hloads
      cases hloads

end MemoryShell
