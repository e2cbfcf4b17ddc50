import MemoryShell.Proofs.Command.Builtins
import MemoryShell.Proofs.Shell.Surroundings
import MemoryShell.Shell.Execute

set_option autoImplicit false

namespace MemoryShell

def Step.isInner : Step → Bool
  | .logged _ => true
  | .isolated _ => true
  | .emitted _ _ | .heard _ _ _ | .hookStarted _ _ _ _ | .bodyStarted _ _ | .redirected _ => false

namespace Shell

/-- A line executed inside another one, with the shells before and after it. -/
structure Call where
  line : Json
  before : Shell
  result : Except Failure Json
  after : Shell

/-- What a course is made of. -/
inductive Move
  | step (st : Step)
  | call (c : Call)

def Move.step? : Move → Option Step
  | .step st => some st
  | .call _ => none

def Move.call? : Move → Option Call
  | .step _ => none
  | .call c => some c

def stepsOf (moves : List Move) : List Step :=
  moves.filterMap Move.step?

def callsOf (moves : List Move) : List Call :=
  moves.filterMap Move.call?

variable {execute : Json → ShellM Json}

/-- Moves lead from one shell to another. What is not recorded may change in between. -/
inductive Course (execute : Json → ShellM Json) : Shell → List Move → Shell → Prop
  | refl (s : Shell) : Course execute s [] s
  | unseen {s t u : Shell} {moves : List Move} (h : t.trace = s.trace)
      (rest : Course execute t moves u) : Course execute s moves u
  | inner {s u : Shell} {moves : List Move} (st : Step) (h : st.isInner = true)
      (rest : Course execute { s with trace := s.trace ++ [st] } moves u) :
      Course execute s moves u
  | step {s u : Shell} {moves : List Move} (st : Step) (h : st.isInner = false)
      (rest : Course execute { s with trace := s.trace ++ [st] } moves u) :
      Course execute s (.step st :: moves) u
  | call {s t u : Shell} {moves : List Move} {line : Json} {r : Except Failure Json}
      (h : outcome (execute line) s = (r, t)) (rest : Course execute t moves u) :
      Course execute s (.call ⟨line, s, r, t⟩ :: moves) u

theorem Course.trans {s t u : Shell} {first later : List Move} (h : Course execute s first t)
    (h' : Course execute t later u) : Course execute s (first ++ later) u := by
  induction h with
  | refl s => exact h'
  | unseen h _ ih => exact .unseen h (ih h')
  | inner st h _ ih => exact .inner st h (ih h')
  | step st h _ ih => exact .step st h (ih h')
  | call h _ ih => exact .call h (ih h')

theorem Course.outcome_of_mem {s t : Shell} {moves : List Move} (h : Course execute s moves t)
    {c : Call} (hc : c ∈ callsOf moves) : outcome (execute c.line) c.before = (c.result, c.after) := by
  induction h with
  | refl s => cases hc
  | unseen _ _ ih => exact ih hc
  | inner _ _ _ ih => exact ih hc
  | step _ _ _ ih => exact ih hc
  | call h _ ih =>
    rcases List.mem_cons.mp hc with rfl | hmem
    · exact h
    · exact ih hmem

theorem Course.extends (hexecute : ∀ line s, s.trace <+: (outcome (execute line) s).2.trace)
    {s t : Shell} {moves : List Move} (h : Course execute s moves t) : s.trace <+: t.trace := by
  induction h with
  | refl s => exact List.prefix_refl _
  | unseen h _ ih => exact h ▸ ih
  | inner st _ _ ih => exact (List.prefix_append _ [st]).trans ih
  | step st _ _ ih => exact (List.prefix_append _ [st]).trans ih
  | @call s t u moves line r h _ ih =>
    have hline := hexecute line s
    rw [h] at hline
    exact hline.trans ih

theorem Course.trace_of_steps {s t : Shell} {own : List Step}
    (h : Course execute s (own.map .step) t) :
    ∃ added, t.trace = s.trace ++ added ∧ added.filter (fun st => !st.isInner) = own := by
  generalize hmoves : own.map Move.step = moves at h
  induction h generalizing own with
  | refl s =>
    obtain rfl := List.map_eq_nil_iff.mp hmoves
    exact ⟨[], by simp, rfl⟩
  | unseen h _ ih =>
    obtain ⟨added, htrace, hown⟩ := ih hmoves
    exact ⟨added, by rw [htrace, h], hown⟩
  | inner st h _ ih =>
    obtain ⟨added, htrace, hown⟩ := ih hmoves
    exact ⟨st :: added, by rw [htrace]; simp, by simp [h, hown]⟩
  | step st h _ ih =>
    obtain ⟨first, rest, rfl, hfirst, hrest⟩ := List.map_eq_cons_iff.mp hmoves
    obtain rfl := Move.step.inj hfirst
    obtain ⟨added, htrace, hown⟩ := ih hrest
    exact ⟨first :: added, by rw [htrace]; simp, by simp [h, hown]⟩
  | call h _ _ =>
    obtain ⟨first, rest, -, hfirst, -⟩ := List.map_eq_cons_iff.mp hmoves
    cases hfirst

/-- Moves of a kind lead from one shell to another. -/
def Reached (execute : Json → ShellM Json) (Kind : Move → Prop) (s t : Shell) : Prop :=
  ∃ moves, Course execute s moves t ∧ ∀ m ∈ moves, Kind m

theorem Reached.refl (Kind : Move → Prop) (s : Shell) : Reached execute Kind s s :=
  ⟨[], .refl s, fun _ hm => by cases hm⟩

theorem Reached.trans {Kind : Move → Prop} {s t u : Shell} (h : Reached execute Kind s t)
    (h' : Reached execute Kind t u) : Reached execute Kind s u := by
  obtain ⟨first, hfirst, hkind⟩ := h
  obtain ⟨later, hlater, hkind'⟩ := h'
  refine ⟨first ++ later, hfirst.trans hlater, fun m hm => ?_⟩
  rcases List.mem_append.mp hm with hm | hm
  · exact hkind m hm
  · exact hkind' m hm

theorem reached_of_trace {Kind : Move → Prop} {s t : Shell} (h : t.trace = s.trace) :
    Reached execute Kind s t :=
  ⟨[], .unseen h (.refl t), fun _ hm => by cases hm⟩

theorem reached_noted {Kind : Move → Prop} {st : Step} (h : st.isInner = false → Kind (.step st))
    (s : Shell) : Reached execute Kind s (noted st s) := by
  cases hinner : st.isInner with
  | true => exact ⟨[], .inner st hinner (.refl _), fun _ hm => by cases hm⟩
  | false =>
    refine ⟨[.step st], .step st hinner (.refl _), fun m hm => ?_⟩
    obtain rfl := List.mem_singleton.mp hm
    exact h hinner

/-- Wherever a program starts, its moves are of one kind. -/
def Moves (execute : Json → ShellM Json) (Kind : Move → Prop) {α : Type} (x : ShellM α) : Prop :=
  ∀ s, Reached execute Kind s (outcome x s).2

namespace Moves

variable {Kind : Move → Prop} {α β : Type}

theorem keeps {x : ShellM α} (h : Moves execute Kind x) (s : Shell) :
    Keeps (Reached execute Kind s) (fun _ => True) x :=
  fun t ht => ⟨fun _ _ => trivial, ht.trans (h t)⟩

theorem of_keeps {x : ShellM α} (h : ∀ s, Keeps (Reached execute Kind s) (fun _ => True) x) :
    Moves execute Kind x :=
  fun s => (h s s (.refl Kind s)).2

theorem of_trace {x : ShellM α} (h : ∀ s, (outcome x s).2.trace = s.trace) :
    Moves execute Kind x :=
  fun s => reached_of_trace (h s)

theorem pure (a : α) : Moves execute Kind (Pure.pure a : ShellM α) :=
  of_keeps fun _ => Keeps.pure trivial

theorem throw (f : Failure) : Moves execute Kind (MonadExcept.throw f : ShellM α) :=
  of_keeps fun _ => Keeps.throw f

theorem get : Moves execute Kind (MonadState.get : ShellM Shell) :=
  of_keeps fun _ => Keeps.get.mono fun _ _ => trivial

theorem bind {x : ShellM α} {f : α → ShellM β} (hx : Moves execute Kind x)
    (hf : ∀ a, Moves execute Kind (f a)) : Moves execute Kind (x >>= f) :=
  of_keeps fun s => (hx.keeps s).bind fun a _ => (hf a).keeps s

theorem attempt {x : ShellM α} (hx : Moves execute Kind x) :
    Moves execute Kind (MemoryShell.attempt x) :=
  fun s => hx s

theorem mapM {f : β → ShellM α} (h : ∀ b, Moves execute Kind (f b)) (bs : List β) :
    Moves execute Kind (bs.mapM f) :=
  of_keeps fun s => Keeps.mapM (fun b => (h b).keeps s) bs

theorem mono {Other : Move → Prop} {x : ShellM α} (hx : Moves execute Kind x)
    (h : ∀ m, Kind m → Other m) : Moves execute Other x := by
  intro s
  obtain ⟨moves, hcourse, hkind⟩ := hx s
  exact ⟨moves, hcourse, fun m hm => h m (hkind m hm)⟩

theorem record {st : Step} (h : st.isInner = false → Kind (.step st)) :
    Moves execute Kind (record st) :=
  fun s => reached_noted h s

theorem line (hcall : ∀ c, Kind (.call c)) (line : Json) : Moves execute Kind (execute line) := by
  intro s
  refine ⟨[.call ⟨line, s, _, _⟩], .call rfl (.refl _), fun m hm => ?_⟩
  obtain rfl := List.mem_singleton.mp hm
  exact hcall _

end Moves

theorem surrounded_reached (Kind : Move → Prop) (first : Shell) :
    Surrounded (fun st => st.isInner = false → Kind (.step st))
      fun s t => s = t ∧ Reached execute Kind first s :=
  surrounded_self (fun hs _ hst => hs.trans (reached_noted hst _))
    (fun hs _ => hs.trans (reached_of_trace rfl)) fun hs _ _ => hs.trans (reached_of_trace rfl)

/-- From one shell to another, with these steps and any lines in between. -/
def Leads (execute : Json → ShellM Json) (s : Shell) (own : List Step) (t : Shell) : Prop :=
  ∃ moves, Course execute s moves t ∧ stepsOf moves = own

theorem Leads.refl (s : Shell) : Leads execute s [] s :=
  ⟨[], .refl s, rfl⟩

theorem Leads.trans {s t u : Shell} {first later : List Step} (h : Leads execute s first t)
    (h' : Leads execute t later u) : Leads execute s (first ++ later) u := by
  obtain ⟨ms, hms, rfl⟩ := h
  obtain ⟨ns, hns, rfl⟩ := h'
  exact ⟨ms ++ ns, hms.trans hns, List.filterMap_append⟩

theorem leads_noted {st : Step} (h : st.isInner = false) (s : Shell) :
    Leads execute s [st] (noted st s) :=
  ⟨[.step st], .step st h (.refl _), rfl⟩

def Move.IsCall (m : Move) : Prop :=
  ∃ c, m = .call c

theorem Moves.leads {α : Type} {x : ShellM α} (h : Moves execute Move.IsCall x) (s : Shell) :
    Leads execute s [] (outcome x s).2 := by
  obtain ⟨moves, hcourse, hcalls⟩ := h s
  refine ⟨moves, hcourse, List.filterMap_eq_nil_iff.mpr fun m hm => ?_⟩
  obtain ⟨c, rfl⟩ := hcalls m hm
  rfl

section

variable {Kind : Move → Prop}

theorem moves_onVolume {α : Type} (op : Int → VolumeM α) : Moves execute Kind (onVolume op) :=
  Moves.of_trace fun s => by rw [outcome_onVolume]

theorem stable_trace (trace : List Step) : Stable fun s : Shell => s.trace = trace where
  enter h _ := h
  changed h _ _ := h

theorem moves_runBuiltin (b : Builtin) (args : List Text) :
    Moves execute Kind (Commands.runBuiltin b args) := by
  refine Moves.of_trace fun s => ?_
  have hkeeps := Keeps.of_coupled
    (Commands.coupled_runBuiltin (stable_trace s.trace).accord b args)
  exact (hkeeps s rfl).2

theorem moves_isWritable (p : Path) : Moves execute Kind (isWritable p) := by
  refine Moves.of_trace fun s => ?_
  have hkeeps := Keeps.of_coupled_eq ((stable_trace s.trace).accord.isWritable p)
  exact (hkeeps s rfl).2

theorem moves_resolve (spelling : Text) : Moves execute Kind (resolve spelling) := by
  refine Moves.get.bind fun s => ?_
  dsimp only
  split
  · exact Moves.pure _
  · exact Moves.throw _

theorem moves_runIsolate (call : IsolateCall) (limits : Limits) :
    Moves execute Kind (runIsolate call limits) := by
  have hserve : ∀ (process : Isolate.Process) (limits : Limits),
      Moves execute Kind (serve process limits) :=
    fun _ _ => Moves.get.bind fun _ => moves_onVolume _
  have hcount : ∀ change, Moves execute Kind (countIsolate change) :=
    fun _ => Moves.of_trace fun _ => rfl
  have hrecord : ∀ report, Moves execute Kind (record (.isolated report)) :=
    fun _ => Moves.record (by intro h; cases h)
  exact Moves.of_keeps fun s => keeps_runIsolate (fun report => (hrecord report).keeps s)
    (fun change => (hcount change).keeps s) (fun limits => (hserve call.process limits).keeps s)
    limits

end

theorem moves_invoke (command : Command) (args : List Text) :
    Moves execute Move.IsCall (Commands.invoke execute command args) := by
  refine Moves.get.bind fun s => ?_
  cases command with
  | builtin b => exact moves_runBuiltin b args
  | say output => exact Moves.pure _
  | refuse kind message => exact Moves.pure _
  | fail f => exact Moves.throw f
  | user => exact Moves.pure _
  | resolve => exact (Moves.mapM (fun a => moves_resolve _) args).bind fun _ => Moves.pure _
  | searchPaths =>
    dsimp only
    split
    · exact Moves.pure _
    · exact Moves.throw _
  | names => exact Moves.get.bind fun _ => Moves.pure _
  | environment => exact Moves.pure _
  | arguments => exact Moves.pure _
  | evaluate =>
    have hline : ∀ a : Text, Moves execute Move.IsCall (execute (.string a)) :=
      fun a => Moves.line (fun c => ⟨c, rfl⟩) _
    refine (Moves.mapM hline args).bind fun results => ?_
    split
    · exact Moves.pure _
    · exact Moves.throw _
  | script call => exact (moves_runIsolate call _).bind fun _ => Moves.pure _

theorem moves_runActions (stage : Stage) (id : Json) (output : Option Json) (args : List Json)
    (actions : List HookAction) :
    Moves execute Move.IsCall (runActions execute stage id output args actions) := by
  have hline : ∀ line, Moves execute Move.IsCall (execute line) := Moves.line fun c => ⟨c, rfl⟩
  refine Moves.of_keeps fun s => Keeps.of_coupled_eq ?_
  exact (surrounded_reached Move.IsCall s).runActions (fun _ h => by cases h)
    (fun line => ((hline line).keeps s).coupled fun _ _ => rfl) stage id output args actions

end Shell

end MemoryShell
