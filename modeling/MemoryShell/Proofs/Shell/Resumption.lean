import MemoryShell.Proofs.Shell.Answer
import MemoryShell.Proofs.Shell.Resumable

/-!
Taking a shell up again. A new shell that is built from the snapshot and the directory of a resumable
one mirrors it: the two differ in times, listeners and settings, and no built-in command looks at
these. So both answer every further line with the same text, and they end in the same directory with
the same snapshot.
-/

set_option autoImplicit false

namespace MemoryShell.Shell

/-- Shells with the same directory and commands, without hooks, whose volumes are twins. -/
structure Mirrors (registry : Registry Command) (s t : Shell) : Prop where
  directory : s.directory = t.directory
  left : s.registry = registry
  right : t.registry = registry
  unhookedLeft : Unhooked s
  unhookedRight : Unhooked t
  volumes : Volume.Twins s.volume t.volume

variable {registry : Registry Command}

theorem coupled_onVolume {α : Type} {Q : α → α → Prop} {op : Int → VolumeM α}
    (h : ∀ now now', Coupled Volume.Twins Q (op now) (op now')) :
    Coupled (Mirrors registry) Q (onVolume op) (onVolume op) := by
  intro s t hst
  rw [outcome_onVolume, outcome_onVolume]
  obtain ⟨hagree, hvolumes⟩ := h s.clock t.clock s.volume t.volume hst.volumes
  exact ⟨hagree.mapError Failure.volume, { hst with volumes := hvolumes }⟩

theorem accord_mirrors : Accord (Mirrors registry) where
  directory h := h.directory
  enter h _ := { h with directory := rfl }
  height h := h.volumes.height
  stat p := coupled_onVolume fun _ _ => Volume.coupled_stat p
  access p request := coupled_onVolume fun _ _ => Volume.coupled_access p request
  readDirectory p := coupled_onVolume fun _ _ => Volume.coupled_readDirectory p
  readText p encoding := coupled_onVolume fun _ _ =>
    (Volume.coupled_readText p encoding).map fun _ _ h => congrArg (fun t => some (Text.ofString t)) h
  writeFile mode p data := coupled_onVolume fun now now' =>
    Volume.coupled_writeFile now now' p mode data
  writeText mode p t := coupled_onVolume fun now now' => Volume.coupled_writeText now now' p mode t
  makeDirectory p := coupled_onVolume fun now now' => Volume.coupled_makeDirectory now now' p
  makeDirectories p := coupled_onVolume fun now now' => Volume.coupled_makeDirectories now now' p
  copyFile source p := coupled_onVolume fun now now' => Volume.coupled_copyFile now now' p source
  remove p recursive force := coupled_onVolume fun now now' =>
    Volume.coupled_remove now now' p recursive force
  touch p := coupled_onVolume fun now now' =>
    Volume.coupled_setTimes p (.integer now) (.integer now')

theorem lineAccord_mirrors (hregistry : BuiltIn registry) :
    LineAccord (Mirrors registry) where
  toAccord := accord_mirrors
  record _ := Coupled.modify fun _ _ hst => { hst with }
  emit c message := by
    intro s t hst
    obtain ⟨ls, steps, hs⟩ := outcome_emit c message s
    obtain ⟨ls', steps', ht⟩ := outcome_emit c message t
    rw [hs, ht]
    exact ⟨⟨rfl, rfl⟩, { hst with }⟩
  registry h := h.left.trans h.right.symm
  builtIn h := h.left ▸ hregistry
  runHooks _ := coupled_runHooks_of_unhooked (fun h => ⟨h.unhookedLeft, h.unhookedRight⟩) _

/-- Executes lines one after another, each at its time: what they come to, and the shell after
them. -/
def executeAll (s : Shell) : List (Int × Json) → List (Except Failure Json) × Shell
  | [] => ([], s)
  | (now, line) :: rest =>
    let (answer, t) := outcome (execute line) { s with clock := now }
    let (answers, last) := executeAll t rest
    (answer :: answers, last)

/-- What a line may come to on an open volume: a text, or an output that cannot be written. -/
def Settles (answer : Except Failure Json) : Prop :=
  (∃ t, answer = .ok (.string t)) ∨ answer = .error (.volume .unencodable)

theorem Mirrors.execute {s t : Shell} (h : Mirrors registry s t) (hregistry : BuiltIn registry)
    (hs : Resumable registry s) (now now' : Int) (line : Json) :
    ∃ (answer : Except Failure Json) (s' t' : Shell),
      outcome (execute line) { s with clock := now } = (answer, s') ∧
      outcome (execute line) { t with clock := now' } = (answer, t') ∧ Settles answer ∧
      Resumable registry s' ∧ Mirrors registry s' t' := by
  have hstanding : Standing s.config registry false { s with clock := now } :=
    ⟨rfl, hs.registry, hs.pristine.isOpen, hs.absolute⟩
  have hresumable : Resumable registry { s with clock := now } := { hs with }
  have hmirrors : Mirrors registry { s with clock := now } { t with clock := now' } := { h with }
  obtain ⟨-, hkept⟩ := keeps_execute hregistry line _ hresumable
  obtain ⟨hagree, hafter⟩ := (lineAccord_mirrors hregistry).execute line _ _ hmirrors
  rcases hagree.cases with ⟨a, b, ha, hb, rfl, text, rfl⟩ | ⟨e, he, he'⟩
  · exact ⟨_, _, _, Prod.ext ha rfl, Prod.ext hb rfl, .inl ⟨text, rfl⟩, hkept, hafter⟩
  · refine ⟨_, _, _, Prod.ext he rfl, Prod.ext he' rfl, .inr ?_, hkept, hafter⟩
    -- on an open volume there is one failure that comes through
    rcases exists_answer hstanding line with ⟨answer, hanswer⟩ | hfails
    · rw [he] at hanswer
      cases hanswer
    · exact he.symm.trans hfails

theorem Mirrors.executeAll {s t : Shell} (h : Mirrors registry s t) (hregistry : BuiltIn registry)
    (hs : Resumable registry s) {later later' : List (Int × Json)}
    (hlines : later.map Prod.snd = later'.map Prod.snd) :
    (executeAll s later).1 = (executeAll t later').1 ∧
      (∀ answer ∈ (executeAll s later).1, Settles answer) ∧
      Mirrors registry (executeAll s later).2 (executeAll t later').2 := by
  induction later generalizing later' s t with
  | nil =>
    obtain rfl := List.map_eq_nil_iff.mp hlines.symm
    exact ⟨rfl, fun _ hanswer => (List.not_mem_nil hanswer).elim, h⟩
  | cons first rest ih =>
    obtain ⟨⟨now', line⟩, rest', rfl, hline, hrest⟩ := List.map_eq_cons_iff.mp hlines.symm
    obtain ⟨now, line'⟩ := first
    subst hline
    obtain ⟨answer, s', t', hrun, hrun', hsettles, hs', h'⟩ := h.execute hregistry hs now now' line
    obtain ⟨hall, hsettle, hlast⟩ := ih h' hs' hrest.symm
    simp only [Shell.executeAll, hrun, hrun']
    exact ⟨by rw [hall], List.forall_mem_cons.mpr ⟨hsettles, hsettle⟩, hlast⟩

theorem isTruthy_of_read {now : Int} {t : Text} {v : Volume} (h : Snapshot.read now t = .ok v) :
    (Json.string t).isTruthy = true := by
  cases t with
  | nil =>
    have hempty : Snapshot.read now [] = .error (.json .malformed) := rfl
    rw [hempty] at h
    cases h
  | cons c rest => rfl

theorem startVolume_of_read {now : Int} {config : Config} {t : Text} {v : Volume}
    (hconfig : config.snapshot = .string t) (h : Snapshot.read now t = .ok v) :
    startVolume now config = .ok v := by
  rw [startVolume, hconfig, if_pos (isTruthy_of_read h)]
  exact loadVolume_eq_ok_iff.mpr ⟨_, rfl, h⟩

theorem Resumable.mirrors {now : Int} {settings : Settings} {s second : Shell} {text : String}
    (hs : Resumable registry s) (hregistry : Registry.empty.registerAll builtins = .ok registry)
    (hnames : s.volume.root.Everywhere (Node.NamesIn Snapshot.Spellable))
    (hwrite : Snapshot.write s.volume = .ok text) (hsnapshot : settings.snapshot = .ofString text)
    (hdirectory : settings.directory = .string s.directory)
    (h : build now settings builtins = .ok second) : Mirrors registry s second := by
  obtain ⟨hconfig, hvolume, hcommands, hsecond⟩ := build_eq_ok_iff.mp h
  obtain ⟨hchecked, -, -, -, hfields⟩ := check_eq_ok_iff.mp hconfig
  obtain ⟨hstring, -⟩ := checkDirectory_eq_ok_iff.mp hchecked
  obtain ⟨w, hw, htwins⟩ := hs.pristine.exists_twin hnames hwrite now
  -- the volume of the new shell is what is read of the text, which is a twin
  have hloaded : startVolume now second.config = .ok w := by
    refine startVolume_of_read ?_ hw
    rw [hfields]
    exact hsnapshot
  obtain rfl := Except.ok.inj (hloaded.symm.trans hvolume)
  obtain rfl := Except.ok.inj (hcommands.symm.trans hregistry)
  rw [hdirectory] at hstring
  rw [hsecond]
  exact ⟨Json.string.inj hstring, hs.registry, rfl, hs.unhooked, fun stage => by cases stage <;> rfl,
    htwins⟩

theorem Resumable.exists_build {s : Shell} {text : String} {settings : Settings} {limits : Limits}
    {config : Config} (hs : Resumable registry s)
    (hregistry : Registry.empty.registerAll builtins = .ok registry)
    (hnames : s.volume.root.Everywhere (Node.NamesIn Snapshot.Spellable))
    (hwrite : Snapshot.write s.volume = .ok text) (hchecked : settings.check = .ok config)
    (hlimits : limits = settings.limits ∨ limits = .usual) (now : Int) :
    ∃ second, build now ⟨.ofString text, .string s.directory, settings.user, settings.environment,
      limits⟩ builtins = .ok second := by
  obtain ⟨-, htimeout, hmemory, henvironment, -⟩ := check_eq_ok_iff.mp hchecked
  obtain ⟨w, hw, -⟩ := hs.pristine.exists_twin hnames hwrite now
  have hdirectory := checkDirectory_eq_ok_iff.mpr ⟨rfl, hs.absolute⟩
  let resumed : Config :=
    ⟨.ofString text, s.directory, settings.user, config.environment, limits⟩
  refine ⟨⟨resumed, s.directory, w, registry, [], [], .empty, 0, now, []⟩,
    build_eq_ok_iff.mpr ⟨check_eq_ok_iff.mpr ⟨hdirectory, ?_, ?_, henvironment, rfl⟩,
      startVolume_of_read rfl hw, hregistry, rfl⟩⟩
  · rcases hlimits with rfl | rfl
    · exact htimeout
    · rfl
  · rcases hlimits with rfl | rfl
    · exact hmemory
    · rfl

/-- Resuming is unobservable while no name in the tree has a high surrogate directly before a low one.
Take a shell with the built-in commands and no hooks that came about through lines, changes of the
directory and restored snapshots. It has a snapshot exactly if the walk has room for the levels of its
tree. If its names are so, a new shell can be built from that snapshot, its directory, its user and its
environment; and from then on both come to the same with the same lines, at whatever times, and end in
the same directory with the same snapshot, or both with none. -/
theorem resume_unobservable {start : Int} {settings : Settings} {first s : Shell}
    {history : List (Int × Event)} (hfirst : build start settings builtins = .ok first)
    (hhistory : ∀ event ∈ history, event.2.Resumable) (hs : after first history = s) :
    ((∃ text, Snapshot.write s.volume = .ok text) ↔
      s.volume.root.height ≤ Snapshot.levelLimit) ∧
    ∀ text, Snapshot.write s.volume = .ok text →
      s.volume.root.Everywhere (Node.NamesIn Snapshot.Spellable) →
      (∀ now limits, limits = settings.limits ∨ limits = .usual →
        ∃ second, build now ⟨.ofString text, .string s.directory, settings.user,
          settings.environment, limits⟩ builtins = .ok second) ∧
      ∀ now settings' second, settings'.snapshot = .ofString text →
        settings'.directory = .string s.directory → build now settings' builtins = .ok second →
        ∀ later later' : List (Int × Json), later.map Prod.snd = later'.map Prod.snd →
          (executeAll s later).1 = (executeAll second later').1 ∧
          (∀ answer ∈ (executeAll s later).1, Settles answer) ∧
          (executeAll s later).2.directory = (executeAll second later').2.directory ∧
          Snapshot.write (executeAll s later).2.volume =
            Snapshot.write (executeAll second later').2.volume := by
  obtain ⟨hconfig, -, hregistry, -⟩ := build_eq_ok_iff.mp hfirst
  obtain ⟨hbuiltIn, hresumable⟩ := resumable_build hfirst
  have hafter : Resumable first.registry s := hs ▸ hresumable.after hbuiltIn hhistory
  refine ⟨Snapshot.exists_write_iff hafter.pristine.isOpen, fun text hwrite hnames => ⟨?_, ?_⟩⟩
  · exact fun now limits hlimits =>
      hafter.exists_build hregistry hnames hwrite hconfig hlimits now
  · intro now settings' second hsnapshot hhere hbuild later later' hlines
    have hmirrors := hafter.mirrors hregistry hnames hwrite hsnapshot hhere hbuild
    obtain ⟨hanswers, hsettle, hlast⟩ := hmirrors.executeAll hbuiltIn hafter hlines
    exact ⟨hanswers, hsettle, hlast.directory, hlast.volumes.write_eq⟩

/-- Two halves of a character next to each other in a name come back as the character. A new shell does
not find the directory of that name, and the other shell enters it. -/
theorem resuming_joins_halves :
    let halves : Text := [0xD83D, 0xDE00]
    ∃ (first s second : Shell) (text : String),
      build 0 .usual builtins = .ok first ∧
      after first [(1, .executed (.string ("mkdir " ++ halves)))] = s ∧
      Snapshot.write s.volume = .ok text ∧
      build 2 ⟨.ofString text, .string s.directory, Settings.usual.user,
        Settings.usual.environment, .usual⟩ builtins = .ok second ∧
      (executeAll s [(3, .string ("cd " ++ halves))]).2.directory ≠
        (executeAll second [(3, .string ("cd " ++ halves))]).2.directory := by
  intro halves
  obtain ⟨first, hfirst⟩ : ∃ first, build 0 .usual builtins = .ok first := ⟨_, rfl⟩
  obtain ⟨hconfig, -, hregistry, -⟩ := build_eq_ok_iff.mp hfirst
  obtain ⟨hbuiltIn, hresumable⟩ := resumable_build hfirst
  let s := after first [(1, .executed (.string ("mkdir " ++ halves)))]
  -- a shell in which the directory has the character as its name has the same snapshot
  let t := after first [(1, .executed (.ofString "mkdir 😀"))]
  have ht : Resumable first.registry t := hresumable.after hbuiltIn fun event hevent => by
    obtain rfl := List.mem_singleton.mp hevent
    trivial
  have hs : Resumable first.registry s := hresumable.after hbuiltIn fun event hevent => by
    obtain rfl := List.mem_singleton.mp hevent
    trivial
  have hnames : t.volume.root.Everywhere (Node.NamesIn Snapshot.Spellable) := by
    obtain rfl := Except.ok.inj hfirst
    exact Node.everywhere_of_nodes (by decide +kernel)
  have hwrite : Snapshot.write t.volume =
      .ok (Json.print (.object (Snapshot.entries t.volume.root))) := by
    refine Snapshot.writeWithin_eq ht.pristine.isOpen ?_
    obtain rfl := Except.ok.inj hfirst
    decide +kernel
  have hsame : Snapshot.write s.volume = Snapshot.write t.volume := by
    rw [hwrite]
    obtain rfl := Except.ok.inj hfirst
    refine (Snapshot.writeWithin_eq hs.pristine.isOpen (by decide +kernel)).trans ?_
    exact congrArg (fun cs => Except.ok (String.ofList cs)) (by decide +kernel)
  have hdirectory : s.directory = t.directory := by
    obtain rfl := Except.ok.inj hfirst
    decide +kernel
  obtain ⟨second, hsecond⟩ := ht.exists_build hregistry hnames hwrite hconfig (.inr rfl) 2
  have hlines : List.map Prod.snd [((3 : Int), Json.string ("cd " ++ halves))] = _ := rfl
  obtain ⟨-, -, hlast⟩ :=
    (ht.mirrors hregistry hnames hwrite rfl rfl hsecond).executeAll hbuiltIn ht hlines
  refine ⟨first, s, second, _, hfirst, rfl, hsame.trans hwrite, hdirectory ▸ hsecond, ?_⟩
  rw [← hlast.directory]
  obtain rfl := Except.ok.inj hfirst
  decide +kernel

/-- A directory was restored and entered and a file was written in it; the new shell finds it. -/
theorem resume_unobservable_written_file :
    let history : List (Int × Event) :=
      [(1, .restored (.ofString "\x7b\"/d\": null\x7d")), (2, .executed (.ofString "cd d")),
        (3, .executed (.ofString "echo hi > f"))]
    ∃ (first second : Shell) (text : String),
      build 0 .usual builtins = .ok first ∧ (∀ event ∈ history, event.2.Resumable) ∧
      Snapshot.write (after first history).volume = .ok text ∧
      (after first history).volume.root.Everywhere (Node.NamesIn Snapshot.Spellable) ∧
      build 4 ⟨.ofString text, .string (after first history).directory, Settings.usual.user,
        Settings.usual.environment, .usual⟩ builtins = .ok second ∧
      (executeAll (after first history) [(5, .ofString "cat f")]).1 =
        (executeAll second [(6, .ofString "cat f")]).1 := by
  intro history
  have hhistory : ∀ event ∈ history, event.2.Resumable := by
    intro event hevent
    simp only [history, List.mem_cons, List.not_mem_nil, or_false] at hevent
    rcases hevent with rfl | rfl | rfl <;> trivial
  obtain ⟨first, hfirst⟩ : ∃ first, build 0 .usual builtins = .ok first := ⟨_, rfl⟩
  have hnames : (after first history).volume.root.Everywhere (Node.NamesIn Snapshot.Spellable) := by
    obtain rfl := Except.ok.inj hfirst
    exact Node.everywhere_of_nodes (by decide +kernel)
  have hheight : (after first history).volume.root.height ≤ Snapshot.levelLimit := by
    obtain rfl := Except.ok.inj hfirst
    decide +kernel
  obtain ⟨hwritten, hresume⟩ := resume_unobservable hfirst hhistory rfl
  obtain ⟨text, hwrite⟩ := hwritten.mpr hheight
  obtain ⟨hbuild, hsame⟩ := hresume text hwrite hnames
  obtain ⟨second, hsecond⟩ := hbuild 4 .usual (.inr rfl)
  obtain ⟨hanswers, -⟩ := hsame 4 _ second rfl rfl hsecond
    [(5, .ofString "cat f")] [(6, .ofString "cat f")] rfl
  exact ⟨first, second, text, hfirst, hhistory, hwrite, hnames, hsecond, hanswers⟩

end MemoryShell.Shell
