import MemoryShell.Proofs.Shell.History
import MemoryShell.Proofs.Shell.Line
import MemoryShell.Proofs.Volume.Pristine

set_option autoImplicit false

namespace MemoryShell

namespace Shell

/-- A shell that can be taken up again from its snapshot and its directory. -/
structure Resumable (registry : Registry Command) (s : Shell) : Prop where
  pristine : Volume.Pristine s.volume
  absolute : Path.isAbsolute s.directory = true
  registry : s.registry = registry
  unhooked : Unhooked s

variable {registry : Registry Command}

theorem attended_resumable :
    Attended (fun _ => True) fun s t => s = t ∧ Resumable registry s :=
  attended_self (fun hs _ _ => { hs with }) fun hs _ => { hs with }

theorem stable_resumable : Stable (Resumable registry) where
  enter hs p := { hs with absolute := Path.isAbsolute_text p }
  changed hs _ h := { hs with pristine := hs.pristine.changes h }

theorem lineAccord_resumable (hregistry : BuiltIn registry) :
    LineAccord fun s t => s = t ∧ Resumable registry s where
  toAccord := stable_resumable.accord
  record _ := attended_resumable.record trivial
  emit := attended_resumable.emit fun _ => trivial
  registry h := by rw [h.1]
  builtIn h := h.2.registry ▸ hregistry
  runHooks _ := by
    refine coupled_runHooks_of_unhooked ?_ _
    rintro s t ⟨rfl, hs⟩
    exact ⟨hs.unhooked, hs.unhooked⟩

theorem keeps_execute (hregistry : BuiltIn registry) (line : Json) :
    Keeps (Resumable registry) (fun answer => ∃ t, answer = .string t) (execute line) :=
  Keeps.of_coupled ((lineAccord_resumable hregistry).execute line)

theorem loadVolume_eq_ok_iff {now : Int} {v : Json} {volume : Volume} :
    loadVolume now v = .ok volume ↔
      ∃ t, v = .string t ∧ Snapshot.read now t = .ok volume := by
  constructor
  · intro h
    cases v with
    | string t =>
      refine ⟨t, rfl, ?_⟩
      simp only [loadVolume, loadAny, Demand.snapshot, Demand.text] at h
      cases hread : Snapshot.read now t with
      | error e =>
        rw [hread] at h
        cases h
      | ok read =>
        rw [hread] at h
        rw [Except.ok.inj h]
    | _ => cases h
  · rintro ⟨t, rfl, hread⟩
    simp [loadVolume, loadAny, Demand.snapshot, Demand.text, hread]

theorem wellFormed_of_loadVolume {now : Int} {v : Json} {volume : Volume}
    (h : loadVolume now v = .ok volume) : Volume.WellFormed volume ∧ volume.released = false := by
  obtain ⟨t, -, hread⟩ := loadVolume_eq_ok_iff.mp h
  exact Volume.wellFormed_of_read hread

theorem pristine_of_loadVolume {now : Int} {v : Json} {volume : Volume}
    (h : loadVolume now v = .ok volume) : Volume.Pristine volume := by
  obtain ⟨t, -, hread⟩ := loadVolume_eq_ok_iff.mp h
  exact Volume.pristine_of_read hread

theorem pristine_of_startVolume {now : Int} {config : Config} {volume : Volume}
    (h : startVolume now config = .ok volume) : Volume.Pristine volume := by
  unfold startVolume at h
  split at h
  · exact pristine_of_loadVolume h
  · exact Except.ok.inj h ▸ Volume.pristine_empty now

def Event.Resumable : Event → Prop
  | .executed _ | .directoryChanged _ | .restored _ | .subscribed _ _ _ | .unsubscribed _ _ => True
  | .closed | .hooked _ _ _ | .filesCalled _ _ _ | .requested _ => False

theorem Resumable.apply {s : Shell} (hregistry : BuiltIn registry) (hs : Resumable registry s)
    {e : Event} (he : e.Resumable) (now : Int) : Resumable registry (e.apply now s) := by
  have hnow : Resumable registry { s with clock := now } := { hs with }
  suffices hact : Keeps (Resumable registry) (fun _ => True) e.act from (hact _ hnow).2
  cases e with
  | executed line => exact (keeps_execute hregistry line).bind fun _ _ => Keeps.pure trivial
  | directoryChanged v =>
    exact (stable_resumable.keeps_changeDirectoryTo v).bind fun _ _ => Keeps.pure trivial
  | restored snapshot =>
    exact (keeps_restore fun ht hw => { ht with pristine := pristine_of_loadVolume hw }).bind
      fun _ _ => Keeps.pure trivial
  | subscribed event id actions =>
    exact Keeps.of_coupled_eq (attended_resumable.subscribe event id actions)
  | unsubscribed event id =>
    exact Keeps.of_coupled_eq (attended_resumable.unsubscribe event id)
  | closed => exact he.elim
  | hooked stage command h => exact he.elim
  | filesCalled method placed named => exact he.elim
  | requested r => exact he.elim

theorem Resumable.after {first : Shell} (hregistry : BuiltIn registry)
    (h : Resumable registry first) {history : List (Int × Event)}
    (hhistory : ∀ event ∈ history, event.2.Resumable) :
    Resumable registry (after first history) := by
  unfold Shell.after
  induction history generalizing first with
  | nil => exact h
  | cons event rest ih =>
    exact ih (h.apply hregistry (hhistory _ List.mem_cons_self) event.1)
      fun e he => hhistory e (List.mem_cons_of_mem _ he)

theorem resumable_build {start : Int} {settings : Settings} {first : Shell}
    (h : build start settings builtins = .ok first) :
    BuiltIn first.registry ∧ Resumable first.registry first := by
  obtain ⟨hconfig, hvolume, hregistry, hfirst⟩ := build_eq_ok_iff.mp h
  obtain ⟨-, habsolute⟩ := checkDirectory_eq_ok_iff.mp (check_eq_ok_iff.mp hconfig).1
  have hpristine : Volume.Pristine first.volume := pristine_of_startVolume hvolume
  refine ⟨builtIn_builtins hregistry, ?_⟩
  rw [hfirst]
  exact ⟨hpristine, habsolute, rfl, fun stage => by cases stage <;> rfl⟩

end Shell

end MemoryShell
