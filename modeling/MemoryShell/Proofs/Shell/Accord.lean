import MemoryShell.Proofs.Coupling
import MemoryShell.Proofs.Volume.Change
import MemoryShell.Shell.Redirect

set_option autoImplicit false

namespace MemoryShell.Shell

/-- A relation of shells that every step of a command keeps, with the same effect on both sides. -/
structure Accord (R : Shell → Shell → Prop) : Prop where
  directory : ∀ {s t}, R s t → s.directory = t.directory
  enter : ∀ {s t}, R s t → ∀ p : Path, R { s with directory := p.text } { t with directory := p.text }
  height : ∀ {s t}, R s t → s.volume.root.height = t.volume.root.height
  stat : ∀ p, Coupled R (fun a b => a.kind = b.kind) (stat p) (stat p)
  access : ∀ (p : Path) request, Coupled R Eq (onVolume fun _ => Volume.access p.text request)
    (onVolume fun _ => Volume.access p.text request)
  readDirectory : ∀ p : Path, Coupled R Eq (onVolume fun _ => Volume.readDirectory p.text)
    (onVolume fun _ => Volume.readDirectory p.text)
  readText : ∀ (p : Path) encoding,
    Coupled R Eq (onVolume fun _ => (fun s => some (Text.ofString s)) <$> Volume.readText p.text encoding)
      (onVolume fun _ => (fun s => some (Text.ofString s)) <$> Volume.readText p.text encoding)
  writeFile : ∀ mode (p : Path) data,
    Coupled R Eq (onVolume fun now => Volume.writeFile now mode p.text data)
      (onVolume fun now => Volume.writeFile now mode p.text data)
  writeText : ∀ mode (p : Path) t,
    Coupled R Eq (onVolume fun now => Volume.writeText now mode p.text t)
      (onVolume fun now => Volume.writeText now mode p.text t)
  makeDirectory : ∀ p : Path, Coupled R Eq (onVolume fun now => Volume.makeDirectory now p.text)
    (onVolume fun now => Volume.makeDirectory now p.text)
  makeDirectories : ∀ p : Path, Coupled R Eq (onVolume fun now => Volume.makeDirectories now p.text)
    (onVolume fun now => Volume.makeDirectories now p.text)
  copyFile : ∀ source p : Path,
    Coupled R Eq (onVolume fun now => Volume.copyFile now source.text p.text)
      (onVolume fun now => Volume.copyFile now source.text p.text)
  remove : ∀ (p : Path) recursive force,
    Coupled R Eq (onVolume fun now => Volume.remove now p.text recursive force)
      (onVolume fun now => Volume.remove now p.text recursive force)
  touch : ∀ p : Path, Coupled R Eq (onVolume fun now => Volume.setTimes p.text (.integer now))
    (onVolume fun now => Volume.setTimes p.text (.integer now))

/-- The same answer on both sides, which is a text. -/
abbrev SameString (a b : Json) : Prop :=
  a = b ∧ ∃ t, a = .string t

variable {R : Shell → Shell → Prop}

namespace Accord

theorem resolve (hR : Accord R) (spelling : Text) :
    Coupled R Eq (resolve spelling) (resolve spelling) := by
  intro s t hst
  have hdir := hR.directory hst
  unfold Shell.resolve
  rw [outcome_bind, outcome_bind, outcome_get, outcome_get]
  simp only [← hdir]
  cases Path.resolve? s.directory spelling with
  | none => exact ⟨rfl, hst⟩
  | some p => exact ⟨rfl, hst⟩

theorem isDirectory (hR : Accord R) (p : Path) :
    Coupled R Eq (isDirectory p) (isDirectory p) := by
  refine (hR.stat p).attempt.bind fun x y hxy => ?_
  rcases hxy.cases with ⟨a, b, rfl, rfl, hab⟩ | ⟨f, rfl, rfl⟩
  · exact Coupled.pure (by rw [hab])
  · split
    · cases ‹Except.error f = Except.ok _›
    · split
      · exact Coupled.pure rfl
      · exact Coupled.throw _
    · exact Coupled.throw _

theorem changeDirectory (hR : Accord R) (spelling : Text) :
    Coupled R Eq (changeDirectory spelling) (changeDirectory spelling) := by
  refine (hR.resolve spelling).bind fun p q hpq => ?_
  subst hpq
  refine (hR.stat p).attempt.bind fun x y hxy => ?_
  rcases hxy.cases with ⟨a, b, rfl, rfl, hab⟩ | ⟨f, rfl, rfl⟩
  · simp only [hab]
    split
    · exact (Coupled.modify fun s t hst => hR.enter hst p).bind fun _ _ _ => Coupled.pure rfl
    · exact Coupled.throw _
  · split
    · cases ‹Except.error f = Except.ok _›
    · split
      · exact Coupled.throw _
      · exact Coupled.throw _
    · exact Coupled.throw _

theorem isCreatable (hR : Accord R) (p : Path) :
    Coupled R Eq (isCreatable p) (isCreatable p) := by
  have hgranted : Coupled R (fun a b => a.kind = b.kind)
      (do
        let s ← Shell.stat p.dropLast
        onVolume fun _ => Volume.access (Path.text p.dropLast) Access.write.flag
        pure s)
      (do
        let s ← Shell.stat p.dropLast
        onVolume fun _ => Volume.access (Path.text p.dropLast) Access.write.flag
        pure s) :=
    (hR.stat p.dropLast).bind fun a b hab =>
      (hR.access _ _).bind fun _ _ _ => Coupled.pure hab
  refine hgranted.attempt.bind fun x y hxy => ?_
  rcases hxy.cases with ⟨a, b, rfl, rfl, hab⟩ | ⟨f, rfl, rfl⟩
  · exact Coupled.pure (by rw [hab])
  · split
    · cases ‹Except.error f = Except.ok _›
    · exact Coupled.pure rfl
    · exact Coupled.throw _

theorem isWritable (hR : Accord R) (p : Path) :
    Coupled R Eq (isWritable p) (isWritable p) := by
  refine (hR.stat p).attempt.bind fun x y hxy => ?_
  rcases hxy.cases with ⟨a, b, rfl, rfl, hab⟩ | ⟨f, rfl, rfl⟩
  · simp only [hab]
    split
    · exact Coupled.pure rfl
    · refine (hR.access p Access.write.flag).attempt.bind fun x y hxy => ?_
      rcases hxy.cases with ⟨a, b, rfl, rfl, rfl⟩ | ⟨f, rfl, rfl⟩
      · exact Coupled.pure rfl
      · split
        · cases ‹Except.error f = Except.ok _›
        · exact Coupled.pure rfl
        · exact Coupled.throw _
  · split
    · cases ‹Except.error f = Except.ok _›
    · exact hR.isCreatable p
    · exact Coupled.pure rfl
    · exact Coupled.throw _

theorem redirect (hR : Accord R)
    (hrecord : ∀ step, Coupled R Eq (record step) (record step))
    (hemit : ∀ c message, Coupled R (fun a b => a = message ∧ b = message) (emit c message)
      (emit c message))
    (output operator target command : Text) :
    Coupled R SameString (redirect output operator target command)
      (redirect output operator target command) := by
  have hsay : ∀ c text, Coupled R SameString (emit c (.string text)) (emit c (.string text)) :=
    fun c text => (hemit c _).mono fun a b ⟨ha, hb⟩ => ⟨ha.trans hb.symm, _, ha⟩
  refine (hR.resolve target).bind fun p q hpq => ?_
  subst hpq
  refine (hR.isWritable p).bind fun a b hab => ?_
  subst hab
  cases a with
  | false => exact hsay _ _
  | true =>
    cases RedirectionOperator.ofSymbol? operator with
    | none => exact hsay _ _
    | some op =>
      refine (hR.writeText (writeMode op) p _).attempt.bind fun x y hxy => ?_
      rcases hxy.cases with ⟨a, b, rfl, rfl, -⟩ | ⟨f, rfl, rfl⟩
      · exact (hrecord _).bind fun _ _ _ => hsay _ _
      · split
        · cases ‹Except.error f = Except.ok _›
        · exact hsay _ _
        · exact Coupled.throw _

end Accord

theorem outcome_onVolume {α : Type} (op : Int → VolumeM α) (s : Shell) :
    outcome (onVolume op) s =
      ((outcome (op s.clock) s.volume).1.mapError .volume,
        { s with volume := (outcome (op s.clock) s.volume).2 }) := by
  unfold onVolume
  rw [outcome_bind, outcome_get]
  rcases hrun : outcome (op s.clock) s.volume with ⟨_ | a, v⟩
  · rw [outcome] at hrun
    simp only [hrun]
    rfl
  · rw [outcome] at hrun
    simp only [hrun]
    rfl

def failureOfCall : Invocation.Error → Failure
  | .volume e => .volume e
  | .fault f => .fault f

theorem outcome_callFiles (method : String) (placed : List Argument) (named : Assignment)
    (s : Shell) :
    outcome (callFiles method placed named) s =
      ((outcome (Invocation.call .files s.clock method placed named) s.volume).1.mapError
          failureOfCall,
        { s with volume :=
          (outcome (Invocation.call .files s.clock method placed named) s.volume).2 }) := by
  unfold callFiles
  rw [outcome_bind, outcome_get]
  rcases hrun : outcome (Invocation.call .files s.clock method placed named) s.volume with
    ⟨(e | f) | value, v⟩
  · rw [outcome] at hrun
    simp only [hrun]
    rfl
  · rw [outcome] at hrun
    simp only [hrun]
    rfl
  · rw [outcome] at hrun
    simp only [hrun]
    rfl

/-- An invariant that no step of a command breaks: it lets the directory and the volume change, the
latter as long as modes stay. -/
structure Stable (I : Shell → Prop) : Prop where
  enter : ∀ {s}, I s → ∀ p : Path, I { s with directory := p.text }
  changed : ∀ {s}, I s → ∀ {v}, Volume.Changes (fun _ => True) False s.volume v →
    I { s with volume := v }

namespace Stable

variable {I : Shell → Prop}

theorem keeps_onVolume (hI : Stable I) {α : Type} {op : Int → VolumeM α}
    (h : ∀ now v, Volume.Changes (fun _ => True) False v (outcome (op now) v).2) :
    Keeps I (fun _ => True) (onVolume op) := by
  intro s hs
  rw [outcome_onVolume]
  exact ⟨fun _ _ => trivial, hI.changed hs (h s.clock s.volume)⟩

theorem accord (hI : Stable I) : Accord fun s t => s = t ∧ I s where
  directory h := by rw [h.1]
  enter := by
    rintro s t ⟨rfl, hs⟩ p
    exact ⟨rfl, hI.enter hs p⟩
  height h := by rw [h.1]
  stat p := (hI.keeps_onVolume fun now v => by
    rw [Volume.outcome_stat]).coupled fun _ _ => rfl
  access p request := (hI.keeps_onVolume fun now v => by
    rw [Volume.outcome_access]).coupled fun _ _ => rfl
  readDirectory p := (hI.keeps_onVolume fun now v => by
    rw [Volume.outcome_readDirectory]).coupled fun _ _ => rfl
  readText p encoding := (hI.keeps_onVolume fun now v => by
    rw [outcome_map, Volume.outcome_readText]).coupled fun _ _ => rfl
  writeFile mode p data := (hI.keeps_onVolume fun now v =>
    Volume.changes_writeFile (fun _ _ _ _ => trivial) now mode data v).coupled fun _ _ => rfl
  writeText mode p t := (hI.keeps_onVolume fun now v =>
    Volume.changes_writeText (fun _ _ _ _ => trivial) now mode t v).coupled fun _ _ => rfl
  makeDirectory p := (hI.keeps_onVolume fun now v =>
    Volume.changes_makeDirectory (fun _ _ _ _ => trivial) now v).coupled fun _ _ => rfl
  makeDirectories p := (hI.keeps_onVolume fun now v =>
    Volume.changes_makeDirectories (fun _ _ _ _ => trivial) now v).coupled fun _ _ => rfl
  copyFile source p := (hI.keeps_onVolume fun now v =>
    Volume.changes_copyFile (fun _ _ _ _ => trivial) now source.text v).coupled fun _ _ => rfl
  remove p recursive force := (hI.keeps_onVolume fun now v =>
    Volume.changes_remove now p.text recursive force v).coupled fun _ _ => rfl
  touch p := (hI.keeps_onVolume fun now v =>
    Volume.changes_setTimes p.text _ v).coupled fun _ _ => rfl

theorem keeps_changeDirectoryTo (hI : Stable I) (v : Json) :
    Keeps I (fun _ => True) (changeDirectoryTo v) := by
  unfold changeDirectoryTo
  split
  · exact Keeps.of_coupled_eq (hI.accord.changeDirectory _)
  · exact Keeps.throw _

end Stable

end MemoryShell.Shell
