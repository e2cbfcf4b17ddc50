import MemoryShell.Proofs.Coupling
import MemoryShell.Shell.Emission
import MemoryShell.Shell.Hooks
import MemoryShell.Shell.Isolation

set_option autoImplicit false

namespace MemoryShell.Shell

def noted (st : Step) (s : Shell) : Shell :=
  { s with trace := s.trace ++ [st] }

/-- Related shells have the same listeners; they stay related when steps of a kind are recorded, and
whatever becomes of the listeners. -/
structure Attended (Kind : Step → Prop) (R : Shell → Shell → Prop) : Prop where
  listeners : ∀ {s t}, R s t → s.listeners = t.listeners
  noted : ∀ {s t}, R s t → ∀ st, Kind st → R (noted st s) (noted st t)
  heard : ∀ {s t}, R s t → ∀ ls, R { s with listeners := ls } { t with listeners := ls }

/-- Related shells have the same hooks too, and they stay related whatever becomes of these. -/
structure Surrounded (Kind : Step → Prop) (R : Shell → Shell → Prop) : Prop
    extends Attended Kind R where
  hooks : ∀ {s t}, R s t → s.hooksBefore = t.hooksBefore ∧ s.hooksAfter = t.hooksAfter
  hooked : ∀ {s t}, R s t → ∀ before after,
    R { s with hooksBefore := before, hooksAfter := after }
      { t with hooksBefore := before, hooksAfter := after }

theorem attended_self {Kind : Step → Prop} {I : Shell → Prop}
    (hnoted : ∀ {s}, I s → ∀ st, Kind st → I (noted st s))
    (hheard : ∀ {s}, I s → ∀ ls, I { s with listeners := ls }) :
    Attended Kind fun s t => s = t ∧ I s where
  listeners h := by rw [h.1]
  noted := by
    rintro s t ⟨rfl, hs⟩ st hst
    exact ⟨rfl, hnoted hs st hst⟩
  heard := by
    rintro s t ⟨rfl, hs⟩ ls
    exact ⟨rfl, hheard hs ls⟩

theorem surrounded_self {Kind : Step → Prop} {I : Shell → Prop}
    (hnoted : ∀ {s}, I s → ∀ st, Kind st → I (noted st s))
    (hheard : ∀ {s}, I s → ∀ ls, I { s with listeners := ls })
    (hhooked : ∀ {s}, I s → ∀ before after,
      I { s with hooksBefore := before, hooksAfter := after }) :
    Surrounded Kind fun s t => s = t ∧ I s where
  toAttended := attended_self hnoted hheard
  hooks h := by rw [h.1]; exact ⟨rfl, rfl⟩
  hooked := by
    rintro s t ⟨rfl, hs⟩ before after
    exact ⟨rfl, hhooked hs before after⟩

namespace Attended

variable {Kind : Step → Prop} {R : Shell → Shell → Prop} (hR : Attended Kind R)

include hR

theorem record {st : Step} (hst : Kind st) : Coupled R Eq (record st) (record st) :=
  Coupled.modify fun _ _ h => hR.noted h st hst

theorem modify (f : Listeners → Listeners) :
    Coupled R Eq (modify fun s => { s with listeners := f s.listeners } : ShellM PUnit)
      (modify fun s => { s with listeners := f s.listeners }) := by
  refine Coupled.modify fun s t h => ?_
  rw [hR.listeners h]
  exact hR.heard h (f t.listeners)

omit hR in
theorem channelOf (event : Json) : Coupled R Eq (channelOf event) (channelOf event) := by
  unfold Shell.channelOf
  split
  · exact Coupled.throw _
  · split
    · exact Coupled.pure rfl
    · exact Coupled.throw _

theorem mention (id : Json) (actions : List ListenerAction) :
    Coupled R Eq (mention id actions) (mention id actions) := by
  unfold Shell.mention
  split
  · exact Coupled.throw _
  · exact hR.modify fun ls => ls.mention id actions

theorem subscribe (event id : Json) (actions : List ListenerAction) :
    Coupled R Eq (subscribe event id actions) (subscribe event id actions) := by
  refine (hR.mention id actions).bind fun _ _ _ => (channelOf event).bind fun c d hcd => ?_
  subst hcd
  exact hR.modify fun ls => ls.subscribe c id

theorem unsubscribe (event id : Json) :
    Coupled R Eq (unsubscribe event id) (unsubscribe event id) := by
  refine (hR.mention id []).bind fun _ _ _ => (channelOf event).bind fun c d hcd => ?_
  subst hcd
  exact hR.modify fun ls => ls.unsubscribe c id

theorem react (hlog : ∀ entry, Kind (.logged entry)) (id message : Json)
    (actions : List ListenerAction) :
    Coupled R Eq (react id message actions) (react id message actions) := by
  induction actions with
  | nil => exact Coupled.pure rfl
  | cons action rest ih =>
    cases action with
    | log => exact (hR.record (hlog _)).bind fun _ _ _ => ih
    | fail => exact Coupled.throw _
    | subscribe event other actions => exact (hR.subscribe event other actions).bind fun _ _ _ => ih
    | unsubscribe event other => exact (hR.unsubscribe event other).bind fun _ _ _ => ih

section

variable (hall : ∀ st, Kind st)

include hall

theorem hear (c : Channel) (message id : Json) :
    Coupled R Eq (hear c message id) (hear c message id) := by
  refine (hR.record (hall _)).bind fun _ _ _ => Coupled.get.bind fun s t hst => ?_
  rw [hR.listeners hst]
  exact hR.react (fun _ => hall _) id message _

theorem deliver (c : Channel) (message : Json) (ids : List Json) :
    Coupled R Eq (deliver c message ids) (deliver c message ids) := by
  induction ids with
  | nil => exact Coupled.pure rfl
  | cons id rest ih => exact (hR.hear hall c message id).attempt.bind fun _ _ _ => ih

theorem emit (c : Channel) (message : Json) :
    Coupled R (fun a b => a = message ∧ b = message) (emit c message) (emit c message) := by
  refine (hR.record (hall _)).bind fun _ _ _ => Coupled.get.bind fun s t hst => ?_
  rw [hR.listeners hst]
  exact (hR.deliver hall c message _).bind fun _ _ _ => Coupled.pure ⟨rfl, rfl⟩

end

end Attended

namespace Surrounded

variable {Kind : Step → Prop} {R : Shell → Shell → Prop} (hR : Surrounded Kind R)

include hR

theorem hooksAt {s t : Shell} (h : R s t) (stage : Stage) : s.hooksAt stage = t.hooksAt stage := by
  obtain ⟨hbefore, hafter⟩ := hR.hooks h
  cases stage with
  | before => exact hbefore
  | after => exact hafter

theorem registerHook (stage : Stage) (command : Json) (hook : Hook) :
    Coupled R Eq (registerHook stage command hook) (registerHook stage command hook) := by
  unfold Shell.registerHook
  split
  · exact Coupled.throw _
  · refine Coupled.modify fun s t h => ?_
    obtain ⟨hbefore, hafter⟩ := hR.hooks h
    cases stage with
    | before =>
      have hregistered := hR.hooked h (s.hooksBefore.register command hook) s.hooksAfter
      simp only [hbefore, hafter] at hregistered ⊢
      exact hregistered
    | after =>
      have hregistered := hR.hooked h s.hooksBefore (s.hooksAfter.register command hook)
      simp only [hbefore, hafter] at hregistered ⊢
      exact hregistered

variable (hlog : ∀ entry, Kind (.logged entry)) {execute : Json → ShellM Json}
  (hexecute : ∀ line, Coupled R Eq (execute line) (execute line))

include hlog hexecute

theorem runActions (stage : Stage) (id : Json) (output : Option Json) (args : List Json)
    (actions : List HookAction) :
    Coupled R Eq (runActions execute stage id output args actions)
      (runActions execute stage id output args actions) := by
  induction actions generalizing args with
  | nil => exact Coupled.pure rfl
  | cons action rest ih =>
    cases action with
    | log => exact (hR.record (hlog _)).bind fun _ _ _ => ih args
    | change f => exact ih (f args)
    | fail f => exact Coupled.throw f
    | register command other actions =>
      exact (hR.registerHook stage command ⟨other, actions⟩).bind fun _ _ _ => ih args
    | execute line =>
      refine (hexecute line).bind fun a b hab => ?_
      subst hab
      exact (hR.record (hlog _)).bind fun _ _ _ => ih args

variable (hstart : ∀ stage command id args, Kind (.hookStarted stage command id args))

include hstart

theorem runEach (stage : Stage) (command : Json) (args : List Json) (output : Option Json)
    (hooks : List Hook) :
    Coupled R Eq (runEach execute stage command args output hooks)
      (runEach execute stage command args output hooks) := by
  induction hooks with
  | nil => exact Coupled.pure rfl
  | cons h rest ih =>
    refine (hR.record (hstart _ _ _ _)).bind fun _ _ _ => ?_
    exact (hR.runActions hlog hexecute stage h.id output args h.actions).bind fun _ _ _ => ih

theorem runHooks (stage : Stage) (command : Json) (args : List Json) (output : Option Json) :
    Coupled R Eq (runHooks execute stage command args output)
      (runHooks execute stage command args output) := by
  refine Coupled.get.bind fun s t hst => ?_
  rw [hR.hooksAt hst]
  exact hR.runEach hlog hexecute hstart stage command args output _

end Surrounded

theorem keeps_runIsolate {I : Shell → Prop}
    (hrecord : ∀ report, Keeps I (fun _ => True) (record (.isolated report)))
    (hcount : ∀ change, Keeps I (fun _ => True) (countIsolate change))
    {call : IsolateCall}
    (hserve : ∀ limits, Keeps I (fun _ => True) (serve call.process limits)) (limits : Limits) :
    Keeps I (fun _ => True) (runIsolate call limits) := by
  have hlaunch : Keeps I (fun _ => True) (launch call limits) := by
    unfold launch
    split
    · exact Keeps.throw _
    · split
      · exact Keeps.throw _
      · exact Keeps.get.bind fun _ _ => Keeps.pure trivial
  refine hlaunch.bind fun start _ => ?_
  split
  · exact (hrecord _).bind fun _ _ => Keeps.throw _
  · refine (hcount 1).bind fun _ _ => (hserve limits).bind fun service _ => ?_
    refine (hrecord _).bind fun _ _ => (hcount (-1)).bind fun _ _ => ?_
    split
    · exact Keeps.pure trivial
    · exact Keeps.throw _

end MemoryShell.Shell
