import MemoryShell.Proofs.Shell.Sustained

set_option autoImplicit false

namespace MemoryShell.Shell

inductive Event
  | executed (line : Json)
  | directoryChanged (v : Json)
  | restored (snapshot : Json)
  | closed
  | hooked (stage : Stage) (command : Json) (h : Hook)
  | subscribed (event id : Json) (actions : List ListenerAction)
  | unsubscribed (event id : Json)
  | filesCalled (method : String) (placed : List Argument) (named : Assignment)
  | requested (r : Request)

def Event.act : Event → ShellM Unit
  | .executed line => do let _ ← execute line
  | .directoryChanged v => do let _ ← changeDirectoryTo v
  | .restored snapshot => do let _ ← restore snapshot
  | .closed => close
  | .hooked stage command h => registerHook stage command h
  | .subscribed event id actions => subscribe event id actions
  | .unsubscribed event id => unsubscribe event id
  | .filesCalled method placed named => do let _ ← callFiles method placed named
  | .requested r => do let _ ← answer r

def Event.apply (now : Int) (e : Event) (s : Shell) : Shell :=
  (outcome e.act { s with clock := now }).2

def after (first : Shell) (history : List (Int × Event)) : Shell :=
  history.foldl (fun s event => event.2.apply event.1 s) first

def Event.Staying : Event → Prop
  | .restored _ | .closed => False
  | .executed _ | .directoryChanged _ | .hooked _ _ _ | .subscribed _ _ _ | .unsubscribed _ _
  | .filesCalled _ _ _ | .requested _ => True

variable {config : Config} {registry : Registry Command}

theorem Sustained.keeps_act {I : Shell → Prop} (hI : Sustained config I) {e : Event}
    (he : e.Staying) : Keeps I (fun _ => True) e.act := by
  cases e with
  | executed line => exact (hI.keeps_executeWithin nestingLimit line).bind fun _ _ => Keeps.pure trivial
  | directoryChanged v =>
    exact (hI.stable.keeps_changeDirectoryTo v).bind fun _ _ => Keeps.pure trivial
  | restored snapshot => exact he.elim
  | closed => exact he.elim
  | hooked stage command h =>
    exact Keeps.of_coupled_eq (hI.surrounded.registerHook stage command h)
  | subscribed event id actions =>
    exact Keeps.of_coupled_eq (hI.surrounded.subscribe event id actions)
  | unsubscribed event id => exact Keeps.of_coupled_eq (hI.surrounded.unsubscribe event id)
  | filesCalled method placed named =>
    have hcall : Keeps I (fun _ => True) (callFiles method placed named) := by
      intro s hs
      rw [outcome_callFiles]
      exact ⟨fun _ _ => trivial,
        hI.changed hs (Invocation.since_call .files s.clock method placed named _ .refl).2⟩
    exact hcall.bind fun _ _ => Keeps.pure trivial
  | requested r =>
    refine (Keeps.get.bind fun t _ => hI.keeps_changes fun now v => ?_).bind
      fun _ _ => Keeps.pure trivial
    exact (Request.keeps_answer r t.directory now v .refl).2

/-- A shell with its configuration, its commands and an absolute directory. -/
def Grounded (config : Config) (registry : Registry Command) (s : Shell) : Prop :=
  ∃ released, Standing config registry released s

theorem sustained_grounded : Sustained config (Grounded config registry) where
  config := fun ⟨_, hs⟩ => hs.config
  entered := fun ⟨released, hs⟩ p => ⟨released, sustained_standing.entered hs p⟩
  changed := fun ⟨released, hs⟩ _ h => ⟨released, sustained_standing.changed hs h⟩
  noted := fun ⟨released, hs⟩ st => ⟨released, sustained_standing.noted hs st⟩
  heard := fun ⟨released, hs⟩ ls => ⟨released, sustained_standing.heard hs ls⟩
  hooked := fun ⟨released, hs⟩ before after => ⟨released, sustained_standing.hooked hs before after⟩
  counted := fun ⟨released, hs⟩ n => ⟨released, sustained_standing.counted hs n⟩

theorem keeps_restore {I : Shell → Prop} {snapshot : Json}
    (h : ∀ {s w}, I s → loadVolume s.clock snapshot = .ok w → I { s with volume := w }) :
    Keeps I (fun _ => True) (restore snapshot) := by
  refine Keeps.get.bind fun s hs => ?_
  split
  · exact Keeps.throw _
  · rename_i w hw
    exact fun _ _ => ⟨fun _ _ => trivial, h hs hw⟩

theorem Grounded.apply {s : Shell} (hs : Grounded config registry s) (now : Int) (e : Event) :
    Grounded config registry (e.apply now s) := by
  have hnow : Grounded config registry { s with clock := now } := by
    obtain ⟨released, h⟩ := hs
    exact ⟨released, h.config, h.registry, h.released, h.absolute⟩
  suffices hact : Keeps (Grounded config registry) (fun _ => True) e.act from (hact _ hnow).2
  cases e with
  | restored snapshot =>
    exact (keeps_restore fun {_ w} ⟨_, ht⟩ _ =>
      ⟨w.released, ht.config, ht.registry, rfl, ht.absolute⟩).bind fun _ _ => Keeps.pure trivial
  | closed =>
    exact Keeps.modify fun t ⟨_, ht⟩ => ⟨true, ht.config, ht.registry, rfl, ht.absolute⟩
  | _ => exact sustained_grounded.keeps_act trivial

theorem Grounded.after {first : Shell} (h : Grounded config registry first)
    (history : List (Int × Event)) : Grounded config registry (after first history) := by
  unfold Shell.after
  induction history generalizing first with
  | nil => exact h
  | cons event rest ih => exact ih (h.apply event.1 event.2)

theorem checkDirectory_eq_ok_iff {v : Json} {t : Text} :
    Settings.checkDirectory v = .ok t ↔ v = .string t ∧ Path.isAbsolute t = true := by
  constructor
  · intro h
    cases v with
    | string u =>
      have hcheck : (if Path.isAbsolute u then Except.ok u
          else .error (.config (.relativeDirectory u))) = (.ok t : Except Failure Text) := h
      split at hcheck
      · rename_i habsolute
        obtain rfl := Except.ok.inj hcheck
        exact ⟨rfl, habsolute⟩
      · cases hcheck
    | _ => cases h
  · rintro ⟨rfl, habsolute⟩
    simp [Settings.checkDirectory, Demand.spelling, Demand.text, habsolute]

theorem check_eq_ok_iff {settings : Settings} {config : Config} :
    settings.check = .ok config ↔
      Settings.checkDirectory settings.directory = .ok config.directory ∧
        Settings.checkLimit .timeout settings.limits.timeoutMs = .ok () ∧
        Settings.checkLimit .memoryLimit settings.limits.memoryLimitMb = .ok () ∧
        Settings.checkEnvironment settings.environment = .ok config.environment ∧
        config = ⟨settings.snapshot, config.directory, settings.user, config.environment,
          settings.limits⟩ := by
  constructor
  · intro h
    obtain ⟨directory, hdirectory, h⟩ := ok_of_bind_ok h
    obtain ⟨_, htimeout, h⟩ := ok_of_bind_ok h
    obtain ⟨_, hmemory, h⟩ := ok_of_bind_ok h
    obtain ⟨environment, henvironment, h⟩ := ok_of_bind_ok h
    obtain rfl := Except.ok.inj h
    exact ⟨hdirectory, htimeout, hmemory, henvironment, rfl⟩
  · rintro ⟨hdirectory, htimeout, hmemory, henvironment, hconfig⟩
    rw [hconfig, Settings.check, hdirectory, htimeout, hmemory, henvironment]
    rfl

theorem build_eq_ok_iff {now : Int} {settings : Settings} {commands : List (String × Offer Command)}
    {first : Shell} :
    build now settings commands = .ok first ↔
      settings.check = .ok first.config ∧ startVolume now first.config = .ok first.volume ∧
        Registry.empty.registerAll commands = .ok first.registry ∧
        first = ⟨first.config, first.config.directory, first.volume, first.registry, [], [], .empty,
          0, now, []⟩ := by
  constructor
  · intro h
    obtain ⟨config, hconfig, h⟩ := ok_of_bind_ok h
    obtain ⟨volume, hvolume, h⟩ := ok_of_bind_ok h
    obtain ⟨registry, hregistry, h⟩ := ok_of_bind_ok h
    obtain rfl := Except.ok.inj h
    exact ⟨hconfig, hvolume, hregistry, rfl⟩
  · rintro ⟨hconfig, hvolume, hregistry, hfirst⟩
    rw [hfirst, build, hconfig]
    simp only [bind, Except.bind, hvolume, hregistry]
    rfl

theorem grounded_build {start : Int} {settings : Settings}
    {commands : List (String × Offer Command)} {first : Shell}
    (h : build start settings commands = .ok first) :
    Grounded first.config first.registry first := by
  obtain ⟨hconfig, -, -, hfirst⟩ := build_eq_ok_iff.mp h
  have habsolute := (checkDirectory_eq_ok_iff.mp (check_eq_ok_iff.mp hconfig).1).2
  rw [hfirst]
  exact ⟨first.volume.released, rfl, rfl, rfl, habsolute⟩

end MemoryShell.Shell
