import MemoryShell.Proofs.Shell.Dispatch
import MemoryShell.Proofs.Shell.Utterance

/-!
One message for each line. Whatever a line comes to, it says nothing before its answer, and then its
answer and nothing more; what is said on the way is said by the lines that are executed inside it, of
which each accounts for its own message in the same way.
-/

set_option autoImplicit false

namespace MemoryShell

/-- Whether a step belongs to saying something. -/
def Step.isVoice : Step → Bool
  | .emitted _ _ => true
  | .heard _ _ _ => true
  | .hookStarted _ _ _ _ | .bodyStarted _ _ | .redirected _ | .logged _ | .isolated _ => false

namespace Shell

variable {execute : Json → ShellM Json}

/-- A move that says nothing itself. -/
def Move.IsQuiet (m : Move) : Prop :=
  ∀ st, m = .step st → st.isVoice = false

theorem Move.IsCall.isQuiet {m : Move} (h : m.IsCall) : m.IsQuiet := by
  obtain ⟨c, rfl⟩ := h
  rintro st ⟨⟩

/-- Something was said in the end and nothing before it, or there was a failure and nothing was said. -/
def Answers (execute : Json → ShellM Json) (s : Shell) (r : Except Failure Json × Shell) : Prop :=
  ∃ moves u, Course execute s moves u ∧ (∀ m ∈ moves, m.IsQuiet) ∧
    ((∃ c message, r = outcome (emit c message) u ∧
        (c = .stderr → ∃ text, message = .string (Message.prefixed text))) ∨
      ∃ f, r = (.error f, u))

/-- Wherever a program starts, it says one thing in the end or fails. -/
def Replies (execute : Json → ShellM Json) (x : ShellM Json) : Prop :=
  ∀ s, Answers execute s (outcome x s)

theorem replies_emit {c : Channel} {message : Json}
    (h : c = .stderr → ∃ text, message = .string (Message.prefixed text)) :
    Replies execute (emit c message) :=
  fun s => ⟨[], s, .refl s, fun _ hm => (by cases hm), .inl ⟨c, message, rfl, h⟩⟩

theorem replies_complain (message : Text) : Replies execute (complain message) :=
  replies_emit fun _ => ⟨message, rfl⟩

theorem replies_throw (f : Failure) : Replies execute (throw f) :=
  fun s => ⟨[], s, .refl s, fun _ hm => (by cases hm), .inr ⟨f, rfl⟩⟩

theorem Moves.replies {α : Type} {x : ShellM α} {f : α → ShellM Json}
    (hx : Moves execute Move.IsQuiet x) (hf : ∀ a, Replies execute (f a)) :
    Replies execute (x >>= f) := by
  intro s
  obtain ⟨first, hcourse, hfirst⟩ := hx s
  rw [outcome_bind]
  rcases hrun : outcome x s with ⟨failure | a, t⟩
  · rw [hrun] at hcourse
    exact ⟨first, t, hcourse, hfirst, .inr ⟨failure, rfl⟩⟩
  · rw [hrun] at hcourse
    obtain ⟨later, u, hcourse', hlater, hend⟩ := hf a t
    refine ⟨first ++ later, u, hcourse.trans hcourse', fun m hm => ?_, hend⟩
    rcases List.mem_append.mp hm with hm | hm
    · exact hfirst m hm
    · exact hlater m hm

theorem moves_quiet {st : Step} (h : st.isVoice = false) :
    Moves execute Move.IsQuiet (record st) := by
  refine Moves.record fun _ other hother => ?_
  rw [← Move.step.inj hother]
  exact h

theorem replies_redirect (output operator target command : Text) :
    Replies execute (redirect output operator target command) := by
  refine (moves_resolve _).replies fun p => (moves_isWritable p).replies fun b => ?_
  cases b with
  | false => exact replies_complain _
  | true =>
    cases RedirectionOperator.ofSymbol? operator with
    | none => exact replies_complain _
    | some op =>
      refine (moves_onVolume _).attempt.replies fun r => ?_
      split
      · exact (moves_quiet rfl).replies fun _ => replies_emit fun h => by cases h
      · exact replies_complain _
      · exact replies_throw _

theorem replies_handOver (tokens : Tokens) (output : Json) (redirection : Option Redirection) :
    Replies execute (handOver tokens output redirection) := by
  cases redirection with
  | none => exact replies_emit fun h => by cases h
  | some r => exact replies_redirect _ _ _ _

theorem moves_runHooks (stage : Stage) (command : Json) (args : List Json)
    (output : Option Json) :
    Moves execute Move.IsQuiet (runHooks execute stage command args output) := by
  have hline : ∀ line, Moves execute Move.IsQuiet (execute line) :=
    Moves.line fun c => Move.IsCall.isQuiet ⟨c, rfl⟩
  refine Moves.of_keeps fun s => Keeps.of_coupled_eq ?_
  exact (surrounded_reached Move.IsQuiet s).runHooks (fun _ h => by cases h)
    (fun line => ((hline line).keeps s).coupled fun _ _ => rfl)
    (fun _ _ _ _ _ st hst => by rw [← Move.step.inj hst]; rfl) stage command args output

theorem moves_runStages (tokens : Tokens) (command : Command) :
    Moves execute Move.IsQuiet (runStages execute tokens command) := by
  refine (moves_runHooks _ _ _ _).bind fun _ => (moves_quiet rfl).bind fun _ => ?_
  refine ((moves_invoke command tokens.args).mono fun _ hm => hm.isQuiet).bind fun o => ?_
  cases o with
  | refused kind message => exact Moves.pure _
  | output v => exact (moves_runHooks _ _ _ _).bind fun _ => Moves.pure _

theorem replies_dispatch (tokens : Tokens) (redirection : Option Redirection)
    (command : Command) : Replies execute (dispatch execute tokens redirection command) := by
  refine (moves_runStages tokens command).attempt.replies fun r => ?_
  rcases r with f | (output | ⟨kind, message⟩)
  · exact replies_complain _
  · exact replies_handOver tokens output redirection
  · exact replies_complain _

theorem replies_executeWith (line : Json) : Replies execute (executeWith execute line) := by
  intro s
  rw [outcome_executeWith]
  cases errand s.registry line with
  | error message => exact replies_complain message s
  | ok e => exact replies_dispatch e.tokens e.redirection e.command s

theorem extends_executeWithin (depth : Nat) (line : Json) (s : Shell) :
    s.trace <+: (outcome (executeWithin depth line) s).2.trace := by
  -- the lines on the way are one level deeper
  induction depth generalizing line s with
  | zero => exact List.prefix_refl _
  | succ depth ih =>
    have hreplies : Replies (executeWithin depth) _ := replies_executeWith line
    obtain ⟨moves, u, hcourse, -, hend⟩ := hreplies s
    have hu : s.trace <+: u.trace := hcourse.extends ih
    rw [executeWithin]
    rcases hend with ⟨c, message, hrun, -⟩ | ⟨f, hrun⟩
    · obtain ⟨echoes, hechoes, -⟩ := exists_echoes c message u
      rw [hrun, hechoes]
      exact hu.trans (List.prefix_append _ _)
    · rw [hrun]
      exact hu

def said (trace : List Step) : List (Channel × Json) :=
  trace.filterMap fun st =>
    match st with
    | .emitted c message => some (c, message)
    | _ => none

def Call.said (c : Call) : List (Channel × Json) :=
  Shell.said (c.after.trace.drop c.before.trace.length)

@[simp] theorem said_append (first later : List Step) :
    said (first ++ later) = said first ++ said later :=
  List.filterMap_append

theorem said_of_extends {first later : List Step} (h : first <+: later) :
    said later = said first ++ said (later.drop first.length) := by
  obtain ⟨added, rfl⟩ := h
  rw [said_append, List.drop_left]

theorem said_of_not_voice {st : Step} (h : st.isVoice = false) : said [st] = [] := by
  cases st with
  | emitted c message => cases h
  | _ => rfl

theorem isVoice_of_isInner {st : Step} (h : st.isInner = true) : st.isVoice = false := by
  cases st with
  | emitted c message => cases h
  | heard c id message => cases h
  | _ => rfl

theorem Course.said_eq (hexecute : ∀ line s, s.trace <+: (outcome (execute line) s).2.trace)
    {s t : Shell} {moves : List Move} (h : Course execute s moves t)
    (hquiet : ∀ m ∈ moves, m.IsQuiet) :
    said t.trace = said s.trace ++ (callsOf moves).flatMap Call.said := by
  induction h with
  | refl s => exact (List.append_nil _).symm
  | unseen h _ ih => rw [ih hquiet, h]
  | inner st h _ ih =>
    rw [ih hquiet, said_append, said_of_not_voice (isVoice_of_isInner h), List.append_nil]
  | step st h _ ih =>
    have hst : st.isVoice = false := hquiet _ List.mem_cons_self st rfl
    rw [ih fun m hm => hquiet m (List.mem_cons_of_mem _ hm), said_append, said_of_not_voice hst,
      List.append_nil]
    rfl
  | @call s t u moves line r h _ ih =>
    have hline : s.trace <+: t.trace := by
      have hprefix := hexecute line s
      rwa [h] at hprefix
    rw [ih fun m hm => hquiet m (List.mem_cons_of_mem _ hm), said_of_extends hline,
      List.append_assoc]
    rfl

theorem said_echoes {echoes : List Step} {c : Channel} {message : Json} {ids : List Json}
    (h : echoes.filter (fun st => !st.isInner) = ids.map fun id => .heard c id message) :
    said echoes = [] := by
  refine List.filterMap_eq_nil_iff.mpr fun st hst => ?_
  cases st with
  | emitted d other =>
    have hmem : Step.emitted d other ∈ echoes.filter fun st => !st.isInner :=
      List.mem_filter.mpr ⟨hst, rfl⟩
    rw [h] at hmem
    obtain ⟨id, -, hid⟩ := List.mem_map.mp hmem
    cases hid
  | _ => rfl

theorem exists_course_to_answer {depth : Nat} {line : Json} {s t : Shell} {m : Json}
    (h : outcome (executeWithin (depth + 1) line) s = (.ok m, t)) :
    ∃ c u moves, Course (executeWithin depth) s moves u ∧ (∀ move ∈ moves, move.IsQuiet) ∧
      outcome (emit c m) u = (.ok m, t) ∧
      (c = .stderr → ∃ text, m = .string (Message.prefixed text)) ∧
      said t.trace = said s.trace ++ (callsOf moves).flatMap Call.said ++ [(c, m)] := by
  have hreplies : Replies (executeWithin depth) _ := replies_executeWith line
  rw [executeWithin] at h
  obtain ⟨moves, u, hcourse, hquiet, ⟨c, message, hrun, hprefix⟩ | ⟨f, hrun⟩⟩ := hreplies s
  · obtain ⟨echoes, hechoes, hheard⟩ := exists_echoes c message u
    have hok := emit_ok c message u
    rw [h] at hrun
    rw [← hrun] at hechoes hok
    obtain rfl := Except.ok.inj hok
    have hbefore := hcourse.said_eq (extends_executeWithin depth) hquiet
    have htail : said (.emitted c m :: echoes) = (c, m) :: said echoes := rfl
    have hlast : said t.trace = said u.trace ++ (c, m) :: said echoes := by
      rw [hechoes, said_append, htail]
    rw [hbefore, said_echoes hheard] at hlast
    exact ⟨c, u, moves, hcourse, hquiet, hrun.symm, hprefix, hlast⟩
  · rw [h] at hrun
    cases hrun

theorem exists_last_said {depth : Nat} {line : Json} {s t : Shell} {m : Json}
    (h : outcome (executeWithin depth line) s = (.ok m, t)) :
    ∃ c earlier, said (t.trace.drop s.trace.length) = earlier ++ [(c, m)] := by
  cases depth with
  | zero => cases h
  | succ depth =>
    obtain ⟨c, u, moves, -, -, -, -, hsaid⟩ := exists_course_to_answer h
    have hextends := extends_executeWithin (depth + 1) line s
    rw [h] at hextends
    rw [said_of_extends hextends, List.append_assoc] at hsaid
    exact ⟨c, _, List.append_cancel_left hsaid⟩

theorem isVoice_of_mem_stepsOf {moves : List Move} (h : ∀ m ∈ moves, m.IsQuiet) {st : Step}
    (hst : st ∈ stepsOf moves) : st.isVoice = false := by
  obtain ⟨move, hmove, hstep⟩ := List.mem_filterMap.mp hst
  cases move with
  | step own => exact h _ hmove st (congrArg Move.step (Option.some.inj hstep))
  | call nested => cases hstep

/-- Exactly one message for each line. A line that has an answer says it on one channel: up to the
moment at which it does so it says nothing itself; then the listener of every subscription of that
moment is called with it once, in order, each in the shell that the calls before it leave, whatever
these came to; and what is said on the channel for complaints starts
with the name of the shell. All messages that are recorded meanwhile are those of the lines executed
inside it, one after another, and then its own; and the last message of each line inside it that has
an answer is that answer. The same holds of these lines, with less depth. -/
theorem one_message_for_each_line {depth : Nat} {line : Json} {s t : Shell} {m : Json}
    (h : outcome (executeWithin (depth + 1) line) s = (.ok m, t)) :
    ∃ (c : Channel) (u : Shell) (moves : List Move) (echoes : List Step),
      Course (executeWithin depth) s moves u ∧
      (∀ st ∈ stepsOf moves, (∀ d other, st ≠ .emitted d other) ∧
        ∀ d id other, st ≠ .heard d id other) ∧
      outcome (emit c m) u = (.ok m, t) ∧
      t.trace = u.trace ++ .emitted c m :: echoes ∧
      echoes.filter (fun st => !st.isInner) =
        (u.listeners.subscriptions c).map (fun id => .heard c id m) ∧
      Hearings c m (u.listeners.subscriptions c) (noted (.emitted c m) u) t ∧
      (c = .stderr → ∃ text : Text, m = .string ("bash: " ++ text)) ∧
      said t.trace = said s.trace ++ (callsOf moves).flatMap Call.said ++ [(c, m)] ∧
      ∀ nested ∈ callsOf moves,
        outcome (executeWithin depth nested.line) nested.before = (nested.result, nested.after) ∧
        ∀ answer, nested.result = .ok answer →
          ∃ d earlier, nested.said = earlier ++ [(d, answer)] := by
  obtain ⟨c, u, moves, hcourse, hquiet, hemit, hprefix, hsaid⟩ := exists_course_to_answer h
  obtain ⟨echoes, hechoes, hheard⟩ := exists_echoes c m u
  have hearings := hearings_emit c m u
  rw [hemit] at hechoes hearings
  refine ⟨c, u, moves, echoes, hcourse, fun st hst => ⟨?_, ?_⟩, hemit, hechoes, hheard, hearings,
    hprefix, hsaid, fun nested hnested => ?_⟩
  · rintro d other rfl
    cases isVoice_of_mem_stepsOf hquiet hst
  · rintro d id other rfl
    cases isVoice_of_mem_stepsOf hquiet hst
  · have hran := hcourse.outcome_of_mem hnested
    refine ⟨hran, fun answer hanswer => ?_⟩
    rw [hanswer] at hran
    exact exists_last_said hran

/-- A hook has another line executed, and a listener that is subscribed twice takes its subscriptions
off and fails; the answer is still the last message. -/
theorem one_message_for_each_line_hooked_echo :
    let hook : Hook := ⟨.ofString "h", [.execute .null]⟩
    let ears : Listeners :=
      ⟨[(.ofString "ear", [.unsubscribe (.ofString "stdout") (.ofString "ear"), .fail])],
        [.ofString "ear", .ofString "ear"], []⟩
    ∃ first s t : Shell, build 0 .usual builtins = .ok first ∧
      s = { first with hooksBefore := [(.ofString "echo", hook)], listeners := ears } ∧
      outcome (executeWithin 2 (.ofString "echo hi")) s = (.ok (.ofString "hi"), t) ∧
      ∃ c earlier, said t.trace = said s.trace ++ earlier ++ [(c, .ofString "hi")] := by
  intro hook ears
  have hline : (Json.ofString "echo hi").text? = some "echo hi" := by decide +kernel
  have hblank : CommandLine.isBlankLine "echo hi" = false := by decide +kernel
  have hparse : CommandLine.parse "echo hi" = ⟨"echo hi", none⟩ := by decide +kernel
  have htokens : Tokens.ofText "echo hi" = .ok ⟨"echo", ["hi"]⟩ := by decide +kernel
  have hread : ∀ s : Shell, s.registry.called? "echo" = some (.builtin .echo) →
      Resolves s (.ofString "echo hi") ⟨"echo", ["hi"]⟩ none (.builtin .echo) := by
    intro s hknown
    refine ⟨⟨"echo hi", hline, hblank, ?_, ?_⟩, by decide, hknown⟩
    · rw [hparse, htokens]
    · rw [hparse]
  have hrun : ∀ first, build 0 .usual builtins = .ok first →
      ∃ t, outcome (executeWithin 2 (.ofString "echo hi"))
        { first with hooksBefore := [(.ofString "echo", hook)], listeners := ears } =
          (.ok (.ofString "hi"), t) := by
    intro first hfirst
    obtain rfl := Except.ok.inj hfirst
    rw [executeWithin, (hread _ rfl).outcome_eq]
    exact ⟨_, rfl⟩
  obtain ⟨first, hfirst⟩ : ∃ first, build 0 .usual builtins = .ok first := ⟨_, rfl⟩
  obtain ⟨t, hanswer⟩ := hrun first hfirst
  obtain ⟨c, u, moves, -, -, -, -, -, -, -, -, hsaid, -⟩ := one_message_for_each_line hanswer
  exact ⟨first, _, t, hfirst, rfl, hanswer, c, _, hsaid⟩

end Shell

end MemoryShell
