import MemoryShell.Command.Builtin
import MemoryShell.Proofs.Shell.Accord

set_option autoImplicit false

namespace MemoryShell

/-- What a command may do to a volume that it has come to. A new file is only made by touching where
nothing is found. -/
inductive Builtin.MayDo : Builtin → Volume → Volume.Operation → Prop
  | make (v : Volume) (path : Text) (recursive : Bool) : MayDo .mkdir v (.makeDirectory path recursive)
  | makeCopy (v : Volume) (path : Text) : MayDo .cp v (.makeDirectory path true)
  | copy (v : Volume) (source destination : Text) : MayDo .cp v (.copyFile source destination)
  | remove (v : Volume) (path : Text) (recursive : Bool) : MayDo .rm v (.remove path recursive false)
  | touch (v : Volume) (path : Text) (now : Int) : MayDo .touch v (.setTimes path (.integer now))
  | create (v : Volume) (path : Text) {e : Volume.Error} (missing : v.find path = .error e) :
    MayDo .touch v (.write .replace path (.octets []))

namespace Commands

open Shell

/-- An invariant of shells that a command cannot break: its operations keep it, and so does another
directory, if the command is the one that moves. -/
structure Withstands (b : Builtin) (I : Shell → Prop) : Prop where
  entered : b = .cd → ∀ {s}, I s → ∀ p : Path, I { s with directory := p.text }
  done : ∀ {s op}, I s → b.MayDo s.volume op →
    I { s with volume := (outcome (op.perform s.clock) s.volume).2 }

variable {I : Shell → Prop}

section

theorem keeps_onVolume {α : Type} {op : Int → VolumeM α}
    (h : ∀ {s}, I s → I { s with volume := (outcome (op s.clock) s.volume).2 }) :
    Keeps I (fun _ => True) (onVolume op) := by
  intro s hs
  rw [outcome_onVolume]
  exact ⟨fun _ _ => trivial, h hs⟩

theorem keeps_looking {α : Type} {op : Int → VolumeM α}
    (h : ∀ now v, (outcome (op now) v).2 = v) : Keeps I (fun _ => True) (onVolume op) := by
  refine keeps_onVolume fun {s} hs => ?_
  rw [h]
  exact hs

theorem keeps_stat (p : Path) : Keeps I (fun _ => True) (stat p) :=
  keeps_looking fun _ v => by rw [Volume.outcome_stat]

theorem keeps_resolve (spelling : Text) : Keeps I (fun _ => True) (resolve spelling) := by
  refine Keeps.get.bind fun s _ => ?_
  dsimp only
  split
  · exact Keeps.pure trivial
  · exact Keeps.throw _

theorem keeps_isDirectory (p : Path) : Keeps I (fun _ => True) (isDirectory p) := by
  refine (keeps_stat p).attempt.bind fun r _ => ?_
  split
  · exact Keeps.pure trivial
  · split
    · exact Keeps.pure trivial
    · exact Keeps.throw _
  · exact Keeps.throw _

theorem keeps_access (p : Path) (request : Int) :
    Keeps I (fun _ => True) (onVolume fun _ => Volume.access p.text request) :=
  keeps_looking fun _ v => by rw [Volume.outcome_access]

theorem keeps_isCreatable (p : Path) : Keeps I (fun _ => True) (isCreatable p) := by
  have hgranted : Keeps I (fun _ => True) (do
      let s ← stat p.dropLast
      onVolume fun _ => Volume.access (Path.text p.dropLast) Access.write.flag
      pure s) :=
    (keeps_stat _).bind fun _ _ => (keeps_access _ _).bind fun _ _ => Keeps.pure trivial
  refine hgranted.attempt.bind fun r _ => ?_
  split
  · exact Keeps.pure trivial
  · exact Keeps.pure trivial
  · exact Keeps.throw _

theorem keeps_isWritable (p : Path) : Keeps I (fun _ => True) (isWritable p) := by
  refine (keeps_stat p).attempt.bind fun r _ => ?_
  split
  · split
    · exact Keeps.pure trivial
    · refine (keeps_access p _).attempt.bind fun r _ => ?_
      split
      · exact Keeps.pure trivial
      · exact Keeps.pure trivial
      · exact Keeps.throw _
  · exact keeps_isCreatable p
  · exact Keeps.pure trivial
  · exact Keeps.throw _

theorem keeps_tryFiles {α : Type} {x : ShellM α} (h : Keeps I (fun _ => True) x) :
    Keeps I (fun _ => True) (tryFiles x) := by
  refine h.attempt.bind fun r _ => ?_
  split
  · exact Keeps.pure trivial
  · exact Keeps.pure trivial
  · exact Keeps.throw _

theorem outcome_tryFiles {α : Type} (x : ShellM α) (s : Shell) :
    outcome (tryFiles x) s =
      (match (outcome x s).1 with
        | .ok a => .ok (.ok a)
        | .error (.volume (.file e _)) => .ok (.error e)
        | .error f => .error f, (outcome x s).2) := by
  unfold tryFiles
  rw [outcome_bind, outcome_attempt]
  cases (outcome x s).1 with
  | ok a => rfl
  | error f =>
    cases f with
    | volume e => cases e <;> rfl
    | _ => rfl

theorem keeps_flagged {allowed : Text} {args : List Text} {f : Flags → ShellM Outcome}
    (h : ∀ flags, Keeps I (fun _ => True) (f flags)) :
    Keeps I (fun _ => True)
      (match flagsOf allowed args with
        | .error refusal => pure refusal
        | .ok flags => f flags) := by
  split
  · exact Keeps.pure trivial
  · exact h _

theorem keeps_fileText (p : Path) : Keeps I (fun _ => True) (fileText p) := by
  refine (keeps_stat p).bind fun s _ => ?_
  split
  · exact Keeps.pure trivial
  · exact keeps_looking fun _ v => by rw [outcome_map, Volume.outcome_readText]

theorem keeps_catAfter (before : Text) (args : List Text) :
    Keeps I (fun _ => True) (catAfter before args) := by
  induction args generalizing before with
  | nil => exact Keeps.pure trivial
  | cons arg args ih =>
    refine (keeps_resolve _).bind fun p _ => ?_
    refine (keeps_tryFiles (keeps_fileText p)).bind fun r _ => ?_
    split
    · exact Keeps.pure trivial
    · exact ih _
    · split
      · exact Keeps.pure trivial
      · split
        · exact Keeps.pure trivial
        · exact Keeps.throw _

end

namespace Withstands

variable {b : Builtin}

theorem keeps_doing (hI : Withstands b I) {step : Int → VolumeM Unit} {op : Volume.Operation}
    (hmay : ∀ v, b.MayDo v op) (hstep : ∀ now, op.perform now = Volume.silent (step now)) :
    Keeps I (fun _ => True) (onVolume step) := by
  refine keeps_onVolume fun {s} hs => ?_
  have hdone := hI.done hs (hmay s.volume)
  rw [hstep, Volume.outcome_silent] at hdone
  exact hdone

theorem keeps_cd (hI : Withstands .cd I) (args : List Text) :
    Keeps I (fun _ => True) (cd args) := by
  cases args with
  | nil => exact Keeps.pure trivial
  | cons arg args =>
    have hchange : Keeps I (fun _ => True) (changeDirectory arg) := by
      refine (keeps_resolve _).bind fun p _ => (keeps_stat p).attempt.bind fun r _ => ?_
      split
      · split
        · exact (Keeps.modify fun s hs => hI.entered rfl hs p).bind fun _ _ => Keeps.pure trivial
        · exact Keeps.throw _
      · split
        · exact Keeps.throw _
        · exact Keeps.throw _
      · exact Keeps.throw _
    refine hchange.attempt.bind fun r _ => ?_
    split
    · exact Keeps.pure trivial
    · exact Keeps.pure trivial
    · exact Keeps.throw _

theorem keeps_makeAll (hI : Withstands .mkdir I) (parents : Bool) (operands : List Text) :
    Keeps I (fun _ => True) (makeAll parents operands) := by
  induction operands with
  | nil => exact Keeps.pure trivial
  | cons operand rest ih =>
    refine (keeps_resolve _).bind fun p _ => ?_
    have hmake : Keeps I (fun _ => True) (onVolume fun now =>
        if parents then Volume.makeDirectories now p.text else Volume.makeDirectory now p.text) := by
      have hmay : ∀ v, Builtin.MayDo .mkdir v (.makeDirectory p.text parents) := fun v => .make v _ _
      refine hI.keeps_doing hmay fun now => ?_
      cases parents with
      | true => rfl
      | false => rfl
    refine (keeps_tryFiles hmake).bind fun r _ => ?_
    split
    · exact ih
    · exact ih.bind fun _ _ => Keeps.pure trivial

theorem keeps_mkdir (hI : Withstands .mkdir I) (args : List Text) :
    Keeps I (fun _ => True) (mkdir args) := by
  unfold mkdir
  split
  · exact Keeps.pure trivial
  · refine keeps_flagged fun flags => ?_
    split
    · exact Keeps.pure trivial
    · refine (hI.keeps_makeAll _ _).bind fun messages _ => ?_
      split
      · exact Keeps.pure trivial
      · exact Keeps.pure trivial

theorem keeps_removeAll (hI : Withstands .rm I) (recursive force : Bool) (operands : List Text) :
    Keeps I (fun _ => True) (removeAll recursive force operands) := by
  induction operands with
  | nil => exact Keeps.pure trivial
  | cons operand rest ih =>
    refine (keeps_resolve _).bind fun p _ => ?_
    have hone : Keeps I (fun _ => True) (removeOne recursive p) := by
      refine (keeps_stat p).bind fun s _ => ?_
      split
      · exact Keeps.pure trivial
      · exact (hI.keeps_doing (fun v => .remove v _ _) fun _ => rfl).bind fun _ _ => Keeps.pure trivial
    split
    · exact Keeps.pure trivial
    · refine (keeps_tryFiles hone).bind fun r _ => ?_
      split
      · exact ih
      · exact Keeps.pure trivial
      · split
        · split
          · exact ih
          · exact Keeps.pure trivial
        · exact Keeps.pure trivial

theorem keeps_rm (hI : Withstands .rm I) (args : List Text) :
    Keeps I (fun _ => True) (rm args) := by
  unfold rm
  split
  · exact Keeps.pure trivial
  · refine keeps_flagged fun flags => ?_
    split
    · exact Keeps.pure trivial
    · exact hI.keeps_removeAll _ _ _

theorem makeFile_of_missing (hI : Withstands .touch I) {s : Shell} (hs : I s) {p : Path}
    {e : Volume.Error} (h : s.volume.find p.text = .error e) :
    I (outcome (makeFile p) s).2 := by
  have hdone := hI.done hs (.create s.volume p.text h)
  rw [Volume.Operation.perform, Volume.outcome_silent] at hdone
  have hstate : (outcome (makeFile p) s).2 = { s with volume :=
      (outcome (Volume.writeFile s.clock .replace p.text []) s.volume).2 } := by
    unfold makeFile
    rw [outcome_bind, outcome_tryFiles, outcome_onVolume]
    rcases outcome (Volume.writeFile s.clock .replace p.text []) s.volume with
      ⟨(errno | _ | _ | _) | _, v⟩ <;> rfl
  rw [hstate]
  exact hdone

theorem keeps_touchAll (hI : Withstands .touch I) (args : List Text) :
    Keeps I (fun _ => True) (touchAll args) := by
  induction args with
  | nil => exact Keeps.pure trivial
  | cons arg rest ih =>
    refine (keeps_resolve _).bind fun p _ => ?_
    intro s hs
    have hdone := hI.done hs (.touch s.volume p.text s.clock)
    rw [Volume.Operation.perform, Volume.outcome_silent, Volume.outcome_setTimes] at hdone
    rw [outcome_bind, outcome_tryFiles, outcome_onVolume, Volume.outcome_setTimes]
    cases hf : s.volume.find p.text with
    | ok node =>
      rw [hf] at hdone
      exact ih _ hdone
    | error e =>
      cases e with
      | file errno named =>
        cases errno with
        | noEntry =>
          -- nothing has been changed yet, so what was not found is still missing
          have hmade := hI.makeFile_of_missing hs hf
          refine ⟨fun _ _ => trivial, ?_⟩
          change I (outcome (makeFile p >>= _) s).2
          rw [outcome_bind]
          rcases hrun : outcome (makeFile p) s with ⟨f | refusal, t⟩
          · rw [hrun] at hmade
            exact hmade
          · rw [hrun] at hmade
            cases refusal with
            | none => exact (ih t hmade).2
            | some refusal => exact hmade
        | _ => exact ⟨fun _ _ => trivial, hs⟩
      | _ => exact ⟨fun _ _ => trivial, hs⟩

theorem keeps_copyEach (hI : Withstands .cp I) {copyDirectory : Path → Path → ShellM Unit}
    (hcopy : ∀ source target, Keeps I (fun _ => True) (copyDirectory source target))
    (source target : Path) (names : List Name) :
    Keeps I (fun _ => True) (copyTree.copyEach copyDirectory source target names) := by
  induction names with
  | nil => exact Keeps.pure trivial
  | cons name names ih =>
    refine (keeps_isDirectory _).bind fun isDirectory _ => ?_
    split
    · exact (hcopy _ _).bind fun _ _ => ih
    · exact (hI.keeps_doing (fun v => .copy v _ _) fun _ => rfl).bind fun _ _ => ih

theorem keeps_copyTree (hI : Withstands .cp I) (levels : Nat) (source target : Path) :
    Keeps I (fun _ => True) (copyTree levels source target) := by
  induction levels generalizing source target with
  | zero => exact Keeps.throw _
  | succ levels ih =>
    refine (hI.keeps_doing (fun v => .makeCopy v _) fun _ => rfl).bind fun _ _ => ?_
    have hnames : Keeps I (fun _ => True) (onVolume fun _ => Volume.readDirectory source.text) :=
      keeps_looking fun _ v => by rw [Volume.outcome_readDirectory]
    exact hnames.bind fun names _ => hI.keeps_copyEach (fun _ _ => ih _ _) source target names

theorem keeps_copyOne (hI : Withstands .cp I) (recursive : Bool) (source target : Path) :
    Keeps I (fun _ => True) (copyOne recursive source target) := by
  refine (keeps_stat source).bind fun s _ => ?_
  split
  · exact (hI.keeps_doing (fun v => .copy v _ _) fun _ => rfl).bind fun _ _ => Keeps.pure trivial
  · split
    · exact Keeps.pure trivial
    · split
      · exact Keeps.pure trivial
      · exact Keeps.get.bind fun t _ =>
          (hI.keeps_copyTree _ source target).bind fun _ _ => Keeps.pure trivial

theorem keeps_copyAll (hI : Withstands .cp I) (recursive intoDirectory : Bool) (destination : Path)
    (sources : List Path) :
    Keeps I (fun _ => True) (copyAll recursive intoDirectory destination sources) := by
  induction sources with
  | nil => exact Keeps.pure trivial
  | cons source rest ih =>
    refine (keeps_tryFiles (hI.keeps_copyOne recursive source _)).bind fun r _ => ?_
    split
    · exact ih
    · exact Keeps.pure trivial
    · split
      · exact Keeps.pure trivial
      · exact Keeps.pure trivial

theorem keeps_cp (hI : Withstands .cp I) (args : List Text) :
    Keeps I (fun _ => True) (cp args) := by
  unfold cp
  split
  · exact Keeps.pure trivial
  · refine keeps_flagged fun flags => ?_
    split
    · exact Keeps.pure trivial
    · split
      · exact Keeps.pure trivial
      · refine (Keeps.mapM (fun o => keeps_resolve _) _).bind fun sources _ => ?_
        refine (keeps_resolve _).bind fun destination _ => ?_
        exact (keeps_isDirectory destination).bind fun _ _ => hI.keeps_copyAll _ _ destination sources

theorem keeps_runBuiltin (hI : Withstands b I) (args : List Text) :
    Keeps I (fun _ => True) (runBuiltin b args) := by
  cases b with
  | cat =>
    cases args with
    | nil => exact Keeps.pure trivial
    | cons arg args => exact keeps_catAfter "" (arg :: args)
  | cd => exact hI.keeps_cd args
  | cp => exact hI.keeps_cp args
  | echo =>
    cases args with
    | nil => exact Keeps.pure trivial
    | cons arg args => exact Keeps.pure trivial
  | mkdir => exact hI.keeps_mkdir args
  | rm => exact hI.keeps_rm args
  | touch =>
    cases args with
    | nil => exact Keeps.pure trivial
    | cons arg args => exact hI.keeps_touchAll (arg :: args)

end Withstands

end Commands

end MemoryShell
