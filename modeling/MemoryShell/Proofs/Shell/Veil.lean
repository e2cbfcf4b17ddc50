import MemoryShell.Proofs.Shell.Line
import MemoryShell.Proofs.Shell.Surroundings
import MemoryShell.Proofs.Volume.FlatView
import MemoryShell.Proofs.Volume.Veil

/-!
Hidden octets do not leak. Shells with the built-in commands that differ only in octets that must
not be read, of which they have equally many, answer every line and every request of an isolate
alike, and afterwards they again differ in nothing else. Hooks and listeners may be anything, for
they are the same on both sides and see the same.
-/

set_option autoImplicit false

namespace MemoryShell.Shell

def veil (s : Shell) : Shell :=
  { s with volume := s.volume.veil }

/-- Shells with the built-in commands of which the same can be seen. -/
structure Lookalike (s t : Shell) : Prop where
  seen : s.veil = t.veil
  builtIn : BuiltIn s.registry

namespace Lookalike

variable {s t : Shell} (h : Lookalike s t)

include h

theorem congr {α : Type} (f : Shell → α) (hf : ∀ u : Shell, f u.veil = f u) : f s = f t := by
  rw [← hf s, ← hf t, h.seen]

theorem directory : s.directory = t.directory :=
  h.congr Shell.directory fun _ => rfl

theorem clock : s.clock = t.clock :=
  h.congr Shell.clock fun _ => rfl

theorem registry : s.registry = t.registry :=
  h.congr Shell.registry fun _ => rfl

theorem listeners : s.listeners = t.listeners :=
  h.congr Shell.listeners fun _ => rfl

theorem volume : s.volume.LooksLike t.volume := by
  have hvolume : s.veil.volume = t.veil.volume := congrArg Shell.volume h.seen
  exact hvolume

theorem update {f : Shell → Shell} (hveil : ∀ u : Shell, (f u).veil = f u.veil)
    (hregistry : ∀ u : Shell, (f u).registry = u.registry) : Lookalike (f s) (f t) := by
  refine ⟨?_, ?_⟩
  · rw [hveil, hveil, h.seen]
  · rw [hregistry]
    exact h.builtIn

end Lookalike

theorem lookalike_onVolume {α : Type} {Q : α → α → Prop} {op : Int → VolumeM α}
    (h : ∀ now, Coupled Volume.LooksLike Q (op now) (op now)) :
    Coupled Lookalike Q (onVolume op) (onVolume op) := by
  intro s t hst
  have hop : op t.clock = op s.clock := by rw [hst.clock]
  rw [outcome_onVolume, outcome_onVolume, hop]
  obtain ⟨hagree, hvolumes⟩ := h s.clock s.volume t.volume hst.volume
  have hafter : Lookalike { s with volume := (outcome (op s.clock) s.volume).2 }
      { t with volume := (outcome (op s.clock) t.volume).2 } := by
    have hrest : { s.veil with volume := (outcome (op s.clock) s.volume).2.veil } =
        { t.veil with volume := (outcome (op s.clock) t.volume).2.veil } := by
      rw [hst.seen, hvolumes]
    exact ⟨hrest, hst.builtIn⟩
  exact ⟨hagree.mapError Failure.volume, hafter⟩

theorem accord_lookalike : Accord Lookalike where
  directory h := h.directory
  enter h p := h.update (f := fun u => { u with directory := p.text }) (fun _ => rfl) fun _ => rfl
  height h := by rw [← Node.height_veil, h.volume.root, Node.height_veil]
  stat p := (lookalike_onVolume fun _ => Volume.veiled_stat p.text).mono fun _ _ h => by rw [h]
  access p request := lookalike_onVolume fun _ => Volume.veiled_access p.text request
  readDirectory p := lookalike_onVolume fun _ => Volume.veiled_readDirectory p.text
  readText p encoding := lookalike_onVolume fun _ =>
    (Volume.veiled_readText p.text encoding).map fun _ _ h => congrArg (fun t => some (Text.ofString t)) h
  writeFile mode p data := lookalike_onVolume fun now =>
    Volume.veiled_writeFile now mode p.text data
  writeText mode p t := lookalike_onVolume fun now => Volume.veiled_writeText now mode p.text t
  makeDirectory p := lookalike_onVolume fun now => Volume.veiled_makeDirectory now p.text
  makeDirectories p := lookalike_onVolume fun now => Volume.veiled_makeDirectories now p.text
  copyFile source p := lookalike_onVolume fun now =>
    Volume.veiled_copyFile now source.text p.text
  remove p recursive force := lookalike_onVolume fun now =>
    Volume.veiled_remove now p.text recursive force
  touch p := lookalike_onVolume fun now => Volume.veiled_setTimes p.text (.integer now)

theorem surrounded_lookalike : Surrounded (fun _ => True) Lookalike where
  listeners h := h.listeners
  noted h st _ := h.update (f := noted st) (fun _ => rfl) fun _ => rfl
  heard h ls := h.update (f := fun u => { u with listeners := ls }) (fun _ => rfl) fun _ => rfl
  hooks h := ⟨h.congr Shell.hooksBefore fun _ => rfl, h.congr Shell.hooksAfter fun _ => rfl⟩
  hooked h before after := h.update
    (f := fun u => { u with hooksBefore := before, hooksAfter := after }) (fun _ => rfl)
    fun _ => rfl

theorem lineAccord_lookalike : LineAccord Lookalike where
  toAccord := accord_lookalike
  record _ := surrounded_lookalike.record trivial
  emit := surrounded_lookalike.emit fun _ => trivial
  registry h := h.registry
  builtIn h := h.builtIn
  runHooks hexecute := surrounded_lookalike.runHooks (fun _ => trivial)
    (fun line => (hexecute line).mono fun _ _ h => h.1) fun _ _ _ _ => trivial

theorem lookalike_answer (r : Request) : Coupled Lookalike Eq (answer r) (answer r) := by
  refine Coupled.get.bind fun s t hst => ?_
  rw [hst.directory]
  exact lookalike_onVolume fun now => Request.coupled_answer Volume.alike_looksLike
    (fun op hop => Volume.veiled_perform hop now) r t.directory

/-- A way to use a shell: a line to execute or a request to answer. -/
inductive Use
  | line (v : Json)
  | request (r : Request)

def Use.act : Use → ShellM (Json ⊕ Reply)
  | .line v => .inl <$> execute v
  | .request r => .inr <$> answer r

/-- Uses a shell again and again, each time at its time: what each use came to, and the shell after
the last. -/
def useAll (s : Shell) : List (Int × Use) → List (Except Failure (Json ⊕ Reply)) × Shell
  | [] => ([], s)
  | (now, use) :: rest =>
    let first := outcome use.act { s with clock := now }
    let later := useAll first.2 rest
    (first.1 :: later.1, later.2)

theorem lookalike_act (use : Use) : Coupled Lookalike Eq use.act use.act := by
  cases use with
  | line v => exact (lineAccord_lookalike.execute v).map fun _ _ h => congrArg Sum.inl h.1
  | request r => exact (lookalike_answer r).map fun _ _ h => congrArg Sum.inr h

theorem Lookalike.useAll {s t : Shell} (h : Lookalike s t) (uses : List (Int × Use)) :
    (useAll s uses).1 = (useAll t uses).1 ∧
      Lookalike (Shell.useAll s uses).2 (Shell.useAll t uses).2 := by
  induction uses generalizing s t with
  | nil => exact ⟨rfl, h⟩
  | cons first rest ih =>
    obtain ⟨now, use⟩ := first
    have hnow : Lookalike { s with clock := now } { t with clock := now } :=
      h.update (f := fun u => { u with clock := now }) (fun _ => rfl) fun _ => rfl
    obtain ⟨hagree, hafter⟩ := lookalike_act use _ _ hnow
    obtain ⟨hrest, hlast⟩ := ih hafter
    refine ⟨?_, hlast⟩
    rw [Shell.useAll, Shell.useAll, hrest]
    rcases hagree.cases with ⟨a, b, ha, hb, hab⟩ | ⟨f, ha, hb⟩
    · rw [ha, hb, hab]
    · rw [ha, hb]

/-- Octets that must not be read are unobservable. Two shells with the built-in commands that are
equal but for the octets of files that grant no reading, of which they have equally many, give the
same answers to the same lines and requests at the same times, and are equal in the end but for such
octets. -/
theorem hidden_octets_unobservable {s t : Shell} (h : s.veil = t.veil)
    (hregistry : BuiltIn s.registry) (uses : List (Int × Use)) :
    (useAll s uses).1 = (useAll t uses).1 ∧ (useAll s uses).2.veil = (useAll t uses).2.veil := by
  have hlookalike : Lookalike s t := ⟨h, hregistry⟩
  obtain ⟨hanswers, hafter⟩ := hlookalike.useAll uses
  exact ⟨hanswers, hafter.seen⟩

/-- A file that may be written but not read is copied, appended to and asked for; nothing tells which
octets it held. -/
theorem hidden_octets_unobservable_copied_file :
    let k : Name := ⟨Text.ofString "k", by decide⟩
    let holding (data : Bytes) : Volume :=
      ⟨.directory (.fresh 0o777 0) [(k, .file (.fresh 0o200 0) data)], false⟩
    let uses : List (Int × Use) := [(1, .line (.ofString "cp k out")),
      (2, .line (.ofString "echo hi >> k")), (3, .request ⟨"read_file", [.value (.ofString "k")]⟩)]
    ∃ first s t : Shell, build 0 .usual builtins = .ok first ∧
      s = { first with volume := holding [1, 2] } ∧ t = { first with volume := holding [3, 4] } ∧
      s.volume.root.entry [k] ≠ t.volume.root.entry [k] ∧ s.veil = t.veil ∧ BuiltIn s.registry ∧
      (useAll s uses).1 = (useAll t uses).1 ∧ (useAll s uses).2.veil = (useAll t uses).2.veil := by
  intro k holding uses
  obtain ⟨first, hfirst⟩ : ∃ first, build 0 .usual builtins = .ok first := ⟨_, rfl⟩
  have hregistered : Registry.empty.registerAll builtins = .ok first.registry :=
    Except.ok.inj hfirst ▸ rfl
  have hregistry : BuiltIn first.registry := builtIn_builtins hregistered
  have hveil : ({ first with volume := holding [1, 2] } : Shell).veil =
      ({ first with volume := holding [3, 4] } : Shell).veil := rfl
  have hdiffer : (holding [1, 2]).root.entry [k] ≠ (holding [3, 4]).root.entry [k] := by
    show some (FlatEntry.file 0o200 [1, 2]) ≠ some (FlatEntry.file 0o200 [3, 4])
    decide
  exact ⟨first, _, _, hfirst, rfl, rfl, hdiffer, hveil, hregistry,
    hidden_octets_unobservable hveil hregistry uses⟩

end MemoryShell.Shell
