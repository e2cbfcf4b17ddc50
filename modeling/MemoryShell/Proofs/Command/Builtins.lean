import MemoryShell.Command.Builtin
import MemoryShell.Proofs.Shell.Accord

set_option autoImplicit false

namespace MemoryShell.Commands

open Shell

variable {R : Shell → Shell → Prop}

def SpeaksText : Outcome → Prop
  | .output v => ∃ t, v = .string t
  | .refused _ _ => True

theorem speaksText_text (s : Text) : SpeaksText (.text s) :=
  ⟨_, rfl⟩

/-- The same outcome on both sides, whose output is a text. -/
abbrev SameText (a b : Outcome) : Prop :=
  a = b ∧ SpeaksText a

theorem coupled_text (s : Text) :
    Coupled R SameText (pure (.text s) : ShellM Outcome) (pure (.text s)) :=
  Coupled.pure ⟨rfl, speaksText_text s⟩

theorem coupled_refused (kind : ErrorKind) (message : Text) :
    Coupled R SameText (pure (.refused kind message) : ShellM Outcome)
      (pure (.refused kind message)) :=
  Coupled.pure ⟨rfl, trivial⟩

theorem coupled_tryFiles {α : Type} {Q : α → α → Prop} {x y : ShellM α} (h : Coupled R Q x y) :
    Coupled R (Agree Q) (tryFiles x) (tryFiles y) := by
  refine h.attempt.bind fun a b hab => ?_
  rcases hab.cases with ⟨a, b, rfl, rfl, hab⟩ | ⟨f, rfl, rfl⟩
  · exact Coupled.pure hab
  · split
    · cases ‹Except.error f = Except.ok _›
    · exact Coupled.pure rfl
    · exact Coupled.throw _

theorem coupled_catAfter (hR : Accord R) (before : Text) (args : List Text) :
    Coupled R SameText (catAfter before args) (catAfter before args) := by
  induction args generalizing before with
  | nil => exact coupled_text before
  | cons arg args ih =>
    refine (hR.resolve arg).bind fun p q hpq => ?_
    subst hpq
    have hread : Coupled R Eq (fileText p) (fileText p) := by
      refine (hR.stat p).bind fun a b hab => ?_
      simp only [hab]
      split
      · exact Coupled.pure rfl
      · exact hR.readText p "utf-8"
    refine (coupled_tryFiles hread).bind fun x y hxy => ?_
    rcases hxy.cases with ⟨a, b, rfl, rfl, rfl⟩ | ⟨e, rfl, rfl⟩
    · cases a with
      | none => exact coupled_refused _ _
      | some text => exact ih (before ++ text)
    · simp only
      split
      · exact coupled_refused _ _
      · split
        · exact coupled_refused _ _
        · exact Coupled.throw _

theorem coupled_cd (hR : Accord R) (args : List Text) :
    Coupled R SameText (cd args) (cd args) := by
  cases args with
  | nil => exact coupled_refused _ _
  | cons arg args =>
    refine (hR.changeDirectory arg).attempt.bind fun x y hxy => ?_
    rcases hxy.cases with ⟨a, b, rfl, rfl, rfl⟩ | ⟨f, rfl, rfl⟩
    · exact coupled_text ""
    · split
      · cases ‹Except.error f = Except.ok _›
      · exact coupled_refused _ _
      · exact Coupled.throw _

theorem coupled_makeAll (hR : Accord R) (parents : Bool) (operands : List Text) :
    Coupled R Eq (makeAll parents operands) (makeAll parents operands) := by
  induction operands with
  | nil => exact Coupled.pure rfl
  | cons operand rest ih =>
    refine (hR.resolve operand).bind fun p q hpq => ?_
    subst hpq
    have hmake : Coupled R Eq
        (onVolume fun now =>
          if parents then Volume.makeDirectories now p.text else Volume.makeDirectory now p.text)
        (onVolume fun now =>
          if parents then Volume.makeDirectories now p.text
          else Volume.makeDirectory now p.text) := by
      cases parents with
      | true => exact hR.makeDirectories p
      | false => exact hR.makeDirectory p
    refine (coupled_tryFiles hmake).bind fun x y hxy => ?_
    rcases hxy.cases with ⟨a, b, rfl, rfl, -⟩ | ⟨e, rfl, rfl⟩
    · exact ih
    · exact ih.bind fun as bs habs => Coupled.pure (by rw [habs])

theorem coupled_flagged {allowed : Text} {args : List Text} {f : Flags → ShellM Outcome}
    (h : ∀ flags, Coupled R SameText (f flags) (f flags)) :
    Coupled R SameText
      (match flagsOf allowed args with
        | .error refusal => pure refusal
        | .ok flags => f flags)
      (match flagsOf allowed args with
        | .error refusal => pure refusal
        | .ok flags => f flags) := by
  unfold flagsOf
  cases Flags.parse allowed args with
  | error c => exact coupled_refused _ _
  | ok flags => exact h flags

theorem coupled_mkdir (hR : Accord R) (args : List Text) :
    Coupled R SameText (mkdir args) (mkdir args) := by
  unfold mkdir
  by_cases hargs : args.isEmpty
  · simp only [hargs, if_true]
    exact coupled_refused _ _
  · simp only [hargs, Bool.false_eq_true, if_false]
    refine coupled_flagged fun flags => ?_
    by_cases hops : flags.operands.isEmpty
    · simp only [hops, if_true]
      exact coupled_refused _ _
    · simp only [hops, Bool.false_eq_true, if_false]
      refine (coupled_makeAll hR _ _).bind fun ms ns hms => ?_
      subst hms
      cases ms with
      | nil => exact coupled_text ""
      | cons m ms => exact coupled_refused _ _

theorem coupled_removeOne (hR : Accord R) (recursive : Bool) (p : Path) :
    Coupled R Eq (removeOne recursive p) (removeOne recursive p) := by
  refine (hR.stat p).bind fun a b hab => ?_
  simp only [hab]
  split
  · exact Coupled.pure rfl
  · exact (hR.remove p recursive false).bind fun _ _ _ => Coupled.pure rfl

theorem coupled_removeAll (hR : Accord R) (recursive force : Bool)
    (operands : List Text) :
    Coupled R SameText (removeAll recursive force operands)
      (removeAll recursive force operands) := by
  induction operands with
  | nil => exact coupled_text ""
  | cons operand rest ih =>
    refine (hR.resolve operand).bind fun p q hpq => ?_
    subst hpq
    by_cases hroot : p = []
    · simp only [hroot, if_true]
      exact coupled_refused _ _
    · simp only [hroot, if_false]
      refine (coupled_tryFiles (coupled_removeOne hR recursive p)).bind fun x y hxy => ?_
      rcases hxy.cases with ⟨a, b, rfl, rfl, rfl⟩ | ⟨e, rfl, rfl⟩
      · cases a with
        | none => exact ih
        | some message => exact coupled_refused _ _
      · simp only
        split
        · split
          · exact ih
          · exact coupled_refused _ _
        · exact coupled_refused _ _

theorem coupled_rm (hR : Accord R) (args : List Text) :
    Coupled R SameText (rm args) (rm args) := by
  unfold rm
  by_cases hargs : args.isEmpty
  · simp only [hargs, if_true]
    exact coupled_refused _ _
  · simp only [hargs, Bool.false_eq_true, if_false]
    refine coupled_flagged fun flags => ?_
    by_cases hops : flags.operands.isEmpty
    · simp only [hops, if_true]
      exact coupled_refused _ _
    · simp only [hops, Bool.false_eq_true, if_false]
      exact coupled_removeAll hR _ _ _

theorem coupled_makeFile (hR : Accord R) (p : Path) :
    Coupled R (fun a b => a = b ∧ ∀ o, a = some o → SpeaksText o) (makeFile p) (makeFile p) := by
  refine (coupled_tryFiles (hR.writeFile .replace p [])).bind fun x y hxy => ?_
  rcases hxy.cases with ⟨a, b, rfl, rfl, -⟩ | ⟨e, rfl, rfl⟩
  · exact Coupled.pure ⟨rfl, by simp⟩
  · refine Coupled.pure ⟨rfl, fun o ho => ?_⟩
    obtain rfl := Option.some.inj ho
    exact trivial

theorem coupled_touchAll (hR : Accord R) (args : List Text) :
    Coupled R SameText (touchAll args) (touchAll args) := by
  induction args with
  | nil => exact coupled_text ""
  | cons arg rest ih =>
    refine (hR.resolve arg).bind fun p q hpq => ?_
    subst hpq
    refine (coupled_tryFiles (hR.touch p)).bind fun x y hxy => ?_
    rcases hxy.cases with ⟨a, b, rfl, rfl, -⟩ | ⟨e, rfl, rfl⟩
    · exact ih
    · split
      · cases ‹Except.error e = Except.ok _›
      · refine (coupled_makeFile hR p).bind fun a b ⟨hab, htext⟩ => ?_
        subst hab
        cases a with
        | none => exact ih
        | some o => exact Coupled.pure ⟨rfl, htext o rfl⟩
      · exact coupled_refused _ _

theorem coupled_copyEach (hR : Accord R) {copyDirectory : Path → Path → ShellM Unit}
    (hcopy : ∀ source target, Coupled R Eq (copyDirectory source target) (copyDirectory source target))
    (source target : Path) (names : List Name) :
    Coupled R Eq (copyTree.copyEach copyDirectory source target names)
      (copyTree.copyEach copyDirectory source target names) := by
  induction names with
  | nil => exact Coupled.pure rfl
  | cons name names ih =>
    refine (hR.isDirectory (source ++ [name])).bind fun a b hab => ?_
    subst hab
    cases a with
    | true => exact (hcopy _ _).bind fun _ _ _ => ih
    | false => exact (hR.copyFile _ _).bind fun _ _ _ => ih

theorem coupled_copyTree (hR : Accord R) (levels : Nat) (source target : Path) :
    Coupled R Eq (copyTree levels source target) (copyTree levels source target) := by
  induction levels generalizing source target with
  | zero => exact Coupled.throw _
  | succ levels ih =>
    refine (hR.makeDirectories target).bind fun _ _ _ => ?_
    refine (hR.readDirectory source).bind fun names other hsame => ?_
    subst hsame
    exact coupled_copyEach hR ih source target names

theorem coupled_copyOne (hR : Accord R) (recursive : Bool) (source target : Path) :
    Coupled R Eq (copyOne recursive source target) (copyOne recursive source target) := by
  refine (hR.stat source).bind fun a b hab => ?_
  simp only [hab]
  split
  · exact (hR.copyFile _ _).bind fun _ _ _ => Coupled.pure rfl
  · split
    · exact Coupled.pure rfl
    · split
      · exact Coupled.pure rfl
      · -- how often the copying recurses is bounded by the height, which is the same on both sides
        intro s t hst
        have hlevels := hR.height hst
        rw [outcome_bind, outcome_bind, outcome_get, outcome_get]
        simp only [hlevels]
        exact ((coupled_copyTree hR _ source target).bind fun _ _ _ => Coupled.pure rfl) s t hst

theorem coupled_copyAll (hR : Accord R) (recursive intoDirectory : Bool) (destination : Path)
    (sources : List Path) :
    Coupled R SameText (copyAll recursive intoDirectory destination sources)
      (copyAll recursive intoDirectory destination sources) := by
  induction sources with
  | nil => exact coupled_text ""
  | cons source rest ih =>
    refine (coupled_tryFiles (coupled_copyOne hR recursive source _)).bind fun x y hxy => ?_
    rcases hxy.cases with ⟨a, b, rfl, rfl, rfl⟩ | ⟨e, rfl, rfl⟩
    · cases a with
      | none => exact ih
      | some message => exact coupled_refused _ _
    · simp only
      split
      · exact coupled_refused _ _
      · exact coupled_refused _ _

theorem coupled_resolveAll (hR : Accord R) (operands : List Text) :
    Coupled R Eq (operands.mapM fun o => resolve o) (operands.mapM fun o => resolve o) := by
  induction operands with
  | nil => exact Coupled.pure rfl
  | cons o os ih =>
    rw [List.mapM_cons]
    exact (hR.resolve o).bind fun p q hpq => ih.bind fun ps qs hps => Coupled.pure (by rw [hpq, hps])

theorem coupled_cp (hR : Accord R) (args : List Text) :
    Coupled R SameText (cp args) (cp args) := by
  unfold cp
  by_cases hargs : args.length < 2
  · simp only [hargs, if_true]
    exact coupled_refused _ _
  · simp only [hargs, if_false]
    refine coupled_flagged fun flags => ?_
    cases flags.operands.getLast? with
    | none => exact coupled_refused _ _
    | some last =>
      by_cases hops : flags.operands.length < 2
      · simp only [hops, if_true]
        exact coupled_refused _ _
      · simp only [hops, if_false]
        refine (coupled_resolveAll hR _).bind fun sources other hsame => ?_
        subst hsame
        refine (hR.resolve last).bind fun destination other hsame => ?_
        subst hsame
        refine (hR.isDirectory destination).bind fun a b hab => ?_
        subst hab
        exact coupled_copyAll hR _ a destination sources

theorem coupled_runBuiltin (hR : Accord R) (b : Builtin) (args : List Text) :
    Coupled R SameText (runBuiltin b args) (runBuiltin b args) := by
  cases b with
  | cat =>
    cases args with
    | nil => exact coupled_refused _ _
    | cons arg args => exact coupled_catAfter hR "" (arg :: args)
  | cd => exact coupled_cd hR args
  | cp => exact coupled_cp hR args
  | echo =>
    cases args with
    | nil => exact coupled_refused _ _
    | cons arg args => exact coupled_text _
  | mkdir => exact coupled_mkdir hR args
  | rm => exact coupled_rm hR args
  | touch =>
    cases args with
    | nil => exact coupled_refused _ _
    | cons arg args => exact coupled_touchAll hR (arg :: args)

end MemoryShell.Commands
