import MemoryShell.Proofs.Shell.Course
import MemoryShell.Proofs.Shell.Emission

set_option autoImplicit false

namespace MemoryShell.Shell

variable {execute : Json → ShellM Json}

theorem course_react (id message : Json) (actions : List ListenerAction) (s : Shell) :
    Course execute s [] (outcome (react id message actions) s).2 := by
  have hmoves : Moves execute (fun _ => False) (react id message actions) :=
    Moves.of_keeps fun s => Keeps.of_coupled_eq
      ((surrounded_reached (fun _ => False) s).react (fun _ h => by cases h) id message actions)
  obtain ⟨moves, hcourse, hnone⟩ := hmoves s
  obtain rfl := List.eq_nil_iff_forall_not_mem.mpr hnone
  exact hcourse

theorem outcome_hear (c : Channel) (message id : Json) (s : Shell) :
    outcome (hear c message id) s =
      outcome (react id message (s.listeners.actionsOf id)) (noted (.heard c id message) s) := rfl

theorem course_hear (c : Channel) (message id : Json) (s : Shell) :
    Course execute s [.step (.heard c id message)] (outcome (hear c message id) s).2 := by
  rw [outcome_hear]
  exact .step _ rfl (course_react id message _ _)

theorem outcome_deliver_cons (c : Channel) (message id : Json) (rest : List Json) (s : Shell) :
    outcome (deliver c message (id :: rest)) s =
      outcome (deliver c message rest) (outcome (hear c message id) s).2 := rfl

theorem course_deliver (c : Channel) (message : Json) (ids : List Json) (s : Shell) :
    Course execute s ((ids.map fun id => Step.heard c id message).map .step)
      (outcome (deliver c message ids) s).2 := by
  -- the subscriptions are those of the beginning, whatever listeners do about them meanwhile
  induction ids generalizing s with
  | nil => exact .refl s
  | cons id rest ih =>
    rw [outcome_deliver_cons]
    exact (course_hear c message id s).trans (ih _)

def channelNamed? (event : Json) : Option Channel :=
  match Demand.key event with
  | .error _ => none
  | .ok _ => event.string?.bind Channel.ofName?

def passes : ListenerAction → Bool
  | .log => true
  | .fail => false
  | .subscribe event id _ => (Demand.key id).isOk && (channelNamed? event).isSome
  | .unsubscribe event id => (Demand.key id).isOk && (channelNamed? event).isSome

def isLog : ListenerAction → Bool
  | .log => true
  | _ => false

def noteCount (actions : List ListenerAction) : Nat :=
  (actions.takeWhile passes).countP isLog

theorem outcome_channelOf (event : Json) (s : Shell) :
    (∃ c, channelNamed? event = some c ∧ outcome (channelOf event) s = (.ok c, s)) ∨
      (channelNamed? event = none ∧ ∃ f, outcome (channelOf event) s = (.error f, s)) := by
  unfold channelNamed? channelOf
  cases Demand.key event with
  | error f => exact .inr ⟨rfl, _, rfl⟩
  | ok k =>
    dsimp only
    cases event.string?.bind Channel.ofName? with
    | none => exact .inr ⟨rfl, _, rfl⟩
    | some c => exact .inl ⟨c, rfl, rfl⟩

theorem outcome_enrol (event id : Json) (actions : List ListenerAction)
    (change : Channel → Listeners → Listeners) (s : Shell) :
    ∃ r ls, outcome (mention id actions >>= fun _ => channelOf event >>= fun c =>
        (modify fun shell => { shell with listeners := change c shell.listeners } : ShellM Unit)) s =
        (r, { s with listeners := ls }) ∧
      (r.isOk = ((Demand.key id).isOk && (channelNamed? event).isSome)) := by
  unfold mention
  cases Demand.key id with
  | error f => exact ⟨_, s.listeners, rfl, rfl⟩
  | ok k =>
    rw [outcome_bind, outcome_modify]
    rcases outcome_channelOf event { s with listeners := s.listeners.mention id actions } with
      ⟨c, hc, hrun⟩ | ⟨hc, f, hrun⟩
    · rw [hc]
      exact ⟨.ok (), _, outcome_bind_ok hrun _, rfl⟩
    · rw [hc]
      exact ⟨.error f, _, outcome_bind_error hrun _, rfl⟩

theorem noteCount_cons (action : ListenerAction) (rest : List ListenerAction) :
    noteCount (action :: rest) =
      bif passes action then noteCount rest + (if isLog action then 1 else 0) else 0 := by
  rw [noteCount, List.takeWhile_cons]
  cases passes action with
  | true => exact List.countP_cons
  | false => rfl

theorem trace_react_enrolled {x : ShellM Unit} {action : ListenerAction}
    {rest : List ListenerAction} {id message : Json} {r : Except Failure Unit} {ls : Listeners}
    {s : Shell} (hlog : isLog action = false) (hpasses : r.isOk = passes action)
    (hrun : outcome x s = (r, { s with listeners := ls }))
    (hrest : ∀ s : Shell, (outcome (react id message rest) s).2.trace =
      s.trace ++ List.replicate (noteCount rest) (.logged (.value id message))) :
    (outcome (x >>= fun _ => react id message rest) s).2.trace =
      s.trace ++ List.replicate (noteCount (action :: rest)) (.logged (.value id message)) := by
  rw [noteCount_cons, hlog, ← hpasses]
  cases r with
  | error f =>
    rw [outcome_bind_error hrun]
    exact (List.append_nil _).symm
  | ok a =>
    rw [outcome_bind_ok hrun, hrest]
    rfl

theorem trace_react (id message : Json) (actions : List ListenerAction) (s : Shell) :
    (outcome (react id message actions) s).2.trace =
      s.trace ++ List.replicate (noteCount actions) (.logged (.value id message)) := by
  induction actions generalizing s with
  | nil => exact (List.append_nil _).symm
  | cons action rest ih =>
    cases action with
    | log =>
      have hrun : outcome (react id message (.log :: rest)) s =
          outcome (react id message rest) (noted (.logged (.value id message)) s) := rfl
      have hcount : noteCount (.log :: rest) = noteCount rest + 1 := noteCount_cons _ _
      rw [hrun, ih, hcount, List.replicate_succ]
      exact List.append_assoc _ [_] _
    | fail => exact (List.append_nil _).symm
    | subscribe event other actions =>
      obtain ⟨r, ls, hrun, hok⟩ :=
        outcome_enrol event other actions (fun c ls => ls.subscribe c other) s
      exact trace_react_enrolled rfl hok hrun ih
    | unsubscribe event other =>
      obtain ⟨r, ls, hrun, hok⟩ :=
        outcome_enrol event other [] (fun c ls => ls.unsubscribe c other) s
      exact trace_react_enrolled rfl hok hrun ih

/-- Listeners are called with a message one after another, whatever each call comes to: from which
shell, and in which one the last call ends. A call records itself and what the listener writes. -/
inductive Hearings (c : Channel) (message : Json) : List Json → Shell → Shell → Prop
  | done (s : Shell) : Hearings c message [] s s
  | next {id : Json} {rest : List Json} {s t u : Shell} {r : Except Failure Unit}
      (hcall : outcome (hear c message id) s = (r, t))
      (htrace : t.trace = s.trace ++ .heard c id message ::
        List.replicate (noteCount (s.listeners.actionsOf id)) (.logged (.value id message)))
      (hrest : Hearings c message rest t u) : Hearings c message (id :: rest) s u

theorem hearings_deliver (c : Channel) (message : Json) (ids : List Json) (s : Shell) :
    Hearings c message ids s (outcome (deliver c message ids) s).2 := by
  induction ids generalizing s with
  | nil => exact .done s
  | cons id rest ih =>
    rw [outcome_deliver_cons]
    have htrace : (outcome (hear c message id) s).2.trace = s.trace ++ .heard c id message ::
        List.replicate (noteCount (s.listeners.actionsOf id)) (.logged (.value id message)) := by
      rw [outcome_hear, trace_react]
      exact List.append_assoc _ [_] _
    exact .next rfl htrace (ih _)

def utterance (c : Channel) (message : Json) (subscriptions : List Json) : List Step :=
  .emitted c message :: subscriptions.map fun id => .heard c id message

theorem snd_outcome_emit (c : Channel) (message : Json) (s : Shell) :
    (outcome (emit c message) s).2 = (outcome (deliver c message (s.listeners.subscriptions c))
      (noted (.emitted c message) s)).2 := by
  have hrun : outcome (emit c message) s = outcome (deliver c message
      (s.listeners.subscriptions c) >>= fun _ => pure message) (noted (.emitted c message) s) := rfl
  rw [hrun, outcome_bind]
  rcases outcome (deliver c message (s.listeners.subscriptions c)) (noted (.emitted c message) s)
    with ⟨_ | _, t⟩
  · rfl
  · rfl

theorem course_emit (c : Channel) (message : Json) (s : Shell) :
    Course execute s ((utterance c message (s.listeners.subscriptions c)).map .step)
      (outcome (emit c message) s).2 := by
  rw [snd_outcome_emit]
  exact .step _ rfl (course_deliver c message _ _)

theorem hearings_emit (c : Channel) (message : Json) (s : Shell) :
    Hearings c message (s.listeners.subscriptions c) (noted (.emitted c message) s)
      (outcome (emit c message) s).2 := by
  rw [snd_outcome_emit]
  exact hearings_deliver c message _ _

theorem leads_emit (c : Channel) (message : Json) (s : Shell) :
    Leads execute s (utterance c message (s.listeners.subscriptions c))
      (outcome (emit c message) s).2 := by
  refine ⟨_, course_emit c message s, ?_⟩
  rw [stepsOf, List.filterMap_map]
  exact List.filterMap_some

theorem emit_ok (c : Channel) (message : Json) (s : Shell) :
    (outcome (emit c message) s).1 = .ok message := by
  obtain ⟨ls, added, hrun⟩ := outcome_emit c message s
  rw [hrun]

theorem exists_echoes (c : Channel) (message : Json) (s : Shell) :
    ∃ echoes, (outcome (emit c message) s).2.trace = s.trace ++ .emitted c message :: echoes ∧
      echoes.filter (fun st => !st.isInner) =
        (s.listeners.subscriptions c).map fun id => .heard c id message := by
  obtain ⟨ls, echoes, hrun⟩ := outcome_emit c message s
  have hcourse : Course (fun _ => throw .tooDeep) s _ _ := course_emit c message s
  obtain ⟨added, hadded, hown⟩ := hcourse.trace_of_steps
  rw [hrun] at hadded ⊢
  obtain rfl := List.append_cancel_left hadded
  exact ⟨echoes, rfl, (List.cons.inj hown).2⟩

end MemoryShell.Shell
