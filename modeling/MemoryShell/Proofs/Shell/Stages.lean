import MemoryShell.Proofs.Shell.Answer
import MemoryShell.Proofs.Shell.Utterance

/-!
The stages of a line. The hooks before the command take turns, then the command itself runs, then the
hooks after it take turns, and then the output is handed over. The first failure ends this with a
complaint, unless it is that of a redirection on a released volume or of an output without octets.
Whatever hooks and commands do,
the steps that a line records itself are those of the stages it came through, in this order, and each
hook is given the arguments of the line.
-/

set_option autoImplicit false

namespace MemoryShell.Shell

def arguments (tokens : Tokens) : List Json :=
  tokens.args.map Json.string

def turn (stage : Stage) (tokens : Tokens) (h : Hook) : Step :=
  .hookStarted stage (.string tokens.name) h.id (arguments tokens)

def bodyTurn (tokens : Tokens) : Step :=
  .bodyStarted tokens.name tokens.args

def hooksNow (stage : Stage) (tokens : Tokens) (s : Shell) : List Hook :=
  (s.hooksAt stage).hooksFor (.string tokens.name)

variable (execute : Json → ShellM Json)

/-- Hooks take turns until one fails: from which shell, which hooks there are, which of them start,
what they come to, and in which shell. Each is given the same arguments. -/
inductive Turns (stage : Stage) (tokens : Tokens) (output : Option Json) :
    Shell → List Hook → List Hook → Except Failure Unit → Shell → Prop
  | done (s : Shell) : Turns stage tokens output s [] [] (.ok ()) s
  | failed {s t : Shell} {h : Hook} {f : Failure} (rest : List Hook)
      (hrun : outcome (runActions execute stage h.id output (arguments tokens) h.actions)
        (noted (turn stage tokens h) s) = (.error f, t)) :
      Turns stage tokens output s (h :: rest) [h] (.error f) t
  | next {s t u : Shell} {h : Hook} {rest started : List Hook} {r : Except Failure Unit}
      (hrun : outcome (runActions execute stage h.id output (arguments tokens) h.actions)
        (noted (turn stage tokens h) s) = (.ok (), t))
      (hrest : Turns stage tokens output t rest started r u) :
      Turns stage tokens output s (h :: rest) (h :: started) r u

section

variable {execute} {stage : Stage} {tokens : Tokens} {output : Option Json}

theorem outcome_runEach_cons (h : Hook) (rest : List Hook) (s : Shell) :
    outcome (runEach execute stage (.string tokens.name) (arguments tokens) output (h :: rest)) s =
      outcome (runActions execute stage h.id output (arguments tokens) h.actions >>= fun _ =>
        runEach execute stage (.string tokens.name) (arguments tokens) output rest)
          (noted (turn stage tokens h) s) := rfl

theorem exists_turns (s : Shell) (hooks : List Hook) :
    ∃ started, Turns execute stage tokens output s hooks started
      (outcome (runEach execute stage (.string tokens.name) (arguments tokens) output hooks) s).1
      (outcome (runEach execute stage (.string tokens.name) (arguments tokens) output hooks)
        s).2 := by
  induction hooks generalizing s with
  | nil => exact ⟨[], .done s⟩
  | cons h rest ih =>
    rw [outcome_runEach_cons, outcome_bind]
    rcases hrun : outcome (runActions execute stage h.id output (arguments tokens) h.actions)
      (noted (turn stage tokens h) s) with ⟨f | ⟨⟩, t⟩
    · exact ⟨[h], .failed rest hrun⟩
    · obtain ⟨started, hrest⟩ := ih t
      exact ⟨h :: started, .next hrun hrest⟩

theorem leads_turn {h : Hook} {s t : Shell} {r : Except Failure Unit}
    (hrun : outcome (runActions execute stage h.id output (arguments tokens) h.actions)
      (noted (turn stage tokens h) s) = (r, t)) : Leads execute s [turn stage tokens h] t := by
  have hactions : Moves execute Move.IsCall
      (runActions execute stage h.id output (arguments tokens) h.actions) :=
    moves_runActions stage h.id output (arguments tokens) h.actions
  have hafter := hactions.leads (noted (turn stage tokens h) s)
  rw [hrun] at hafter
  exact (leads_noted rfl s).trans hafter

namespace Turns

variable {s u : Shell} {hooks started : List Hook} {r : Except Failure Unit}

theorem outcome_eq (h : Turns execute stage tokens output s hooks started r u) :
    outcome (runEach execute stage (.string tokens.name) (arguments tokens) output hooks) s =
      (r, u) := by
  induction h with
  | done s => rfl
  | failed rest hrun => rw [outcome_runEach_cons, outcome_bind, hrun]
  | next hrun _ ih => rw [outcome_runEach_cons, outcome_bind_ok hrun, ih]

theorem started_prefix (h : Turns execute stage tokens output s hooks started r u) :
    started <+: hooks := by
  induction h with
  | done s => exact List.prefix_refl []
  | failed rest _ => exact ⟨rest, rfl⟩
  | next _ _ ih => exact List.cons_prefix_cons.mpr ⟨rfl, ih⟩

theorem started_eq (h : Turns execute stage tokens output s hooks started (.ok ()) u) :
    started = hooks := by
  generalize hr : (Except.ok () : Except Failure Unit) = r at h
  induction h with
  | done s => rfl
  | failed rest _ => cases hr
  | next _ _ ih => rw [ih hr]

theorem leads (h : Turns execute stage tokens output s hooks started r u) :
    Leads execute s (started.map (turn stage tokens)) u := by
  induction h with
  | done s => exact .refl s
  | failed rest hrun => exact leads_turn hrun
  | next hrun _ ih => exact (leads_turn hrun).trans ih

end Turns

end

/-- Every hook of a stage that is registered now takes its turn and completes. -/
def Completes (stage : Stage) (tokens : Tokens) (output : Option Json) (s u : Shell) : Prop :=
  Turns execute stage tokens output s (hooksNow stage tokens s) (hooksNow stage tokens s) (.ok ()) u

def complaint (message : Text) (s : Shell) : List Step :=
  utterance .stderr (.string (Message.prefixed message)) (s.listeners.subscriptions .stderr)

/-- Handing an output over: it is said, or it is written to the target of a redirection and that is
said, or what went wrong with the redirection is. On a released volume a redirection fails. -/
inductive Delivery (output : Json) :
    Option Redirection → Shell → List Step → Except Failure Json × Shell → Prop
  | said (s : Shell) :
      Delivery output none s (utterance .stdout output (s.listeners.subscriptions .stdout))
        (outcome (emit .stdout output) s)
  | written {s u : Shell} {redirection : Redirection} {p : Path}
      (hp : Path.resolve? s.directory redirection.target = some p)
      (hwrite : Leads execute s [] u) :
      Delivery output (some redirection) s
        (.redirected p :: utterance .stdout (.string (Message.prefixed []))
          (u.listeners.subscriptions .stdout))
        (outcome (emit .stdout (.string (Message.prefixed []))) (noted (.redirected p) u))
  | refused {s u : Shell} {redirection : Redirection} (message : Text)
      (hwrite : Leads execute s [] u) :
      Delivery output (some redirection) s (complaint message u) (outcome (complain message) u)
  | failed {s u : Shell} {redirection : Redirection} (f : Failure)
      (hwrite : Leads execute s [] u) :
      Delivery output (some redirection) s [] (.error f, u)

/-- The last stage of a line that was begun. -/
inductive Reach
  | before
  | body
  | after
  | delivery
  deriving DecidableEq

/-- How a line of a command goes: how far it comes, which steps it records, what it comes to and in
which shell. What fails first before the delivery is complained about, and nothing comes after that. -/
inductive Passage (tokens : Tokens) (redirection : Option Redirection) (command : Command)
    (s : Shell) : Reach → List Step → Except Failure Json × Shell → Prop
  | stoppedBefore {started : List Hook} {f : Failure} {u : Shell}
      (hbefore : Turns execute .before tokens none s (hooksNow .before tokens s) started
        (.error f) u) :
      Passage tokens redirection command s .before
        (started.map (turn .before tokens) ++ complaint (Message.orUnknown f.message) u)
        (outcome (complain (Message.orUnknown f.message)) u)
  | bodyFailed {f : Failure} {u v : Shell} (hbefore : Completes execute .before tokens none s u)
      (hbody : outcome (Commands.invoke execute command tokens.args) (noted (bodyTurn tokens) u) =
        (.error f, v)) :
      Passage tokens redirection command s .body
        ((hooksNow .before tokens s).map (turn .before tokens) ++ bodyTurn tokens ::
          complaint (Message.orUnknown f.message) v)
        (outcome (complain (Message.orUnknown f.message)) v)
  | bodyRefused {kind : ErrorKind} {message : Text} {u v : Shell}
      (hbefore : Completes execute .before tokens none s u)
      (hbody : outcome (Commands.invoke execute command tokens.args) (noted (bodyTurn tokens) u) =
        (.ok (.refused kind message), v)) :
      Passage tokens redirection command s .body
        ((hooksNow .before tokens s).map (turn .before tokens) ++ bodyTurn tokens ::
          complaint (Message.orUnknown message) v)
        (outcome (complain (Message.orUnknown message)) v)
  | stoppedAfter {output : Json} {started : List Hook} {f : Failure} {u v w : Shell}
      (hbefore : Completes execute .before tokens none s u)
      (hbody : outcome (Commands.invoke execute command tokens.args) (noted (bodyTurn tokens) u) =
        (.ok (.output output), v))
      (hafter : Turns execute .after tokens (some output) v (hooksNow .after tokens v) started
        (.error f) w) :
      Passage tokens redirection command s .after
        ((hooksNow .before tokens s).map (turn .before tokens) ++ bodyTurn tokens ::
          (started.map (turn .after tokens) ++ complaint (Message.orUnknown f.message) w))
        (outcome (complain (Message.orUnknown f.message)) w)
  | delivered {output : Json} {delivery : List Step} {u v w : Shell}
      (hbefore : Completes execute .before tokens none s u)
      (hbody : outcome (Commands.invoke execute command tokens.args) (noted (bodyTurn tokens) u) =
        (.ok (.output output), v))
      (hafter : Completes execute .after tokens (some output) v w)
      (hdelivery : Delivery execute output redirection w delivery
        (outcome (handOver tokens output redirection) w)) :
      Passage tokens redirection command s .delivery
        ((hooksNow .before tokens s).map (turn .before tokens) ++ bodyTurn tokens ::
          ((hooksNow .after tokens v).map (turn .after tokens) ++ delivery))
        (outcome (handOver tokens output redirection) w)

variable {execute} {tokens : Tokens} {redirection : Option Redirection} {command : Command}
  {s : Shell}

theorem leads_complain (message : Text) (s : Shell) :
    Leads execute s (complaint message s) (outcome (complain message) s).2 :=
  leads_emit .stderr _ s

/-- From wherever a program goes on without steps, it hands an output over. -/
def HandsOver (execute : Json → ShellM Json) (output : Json) (redirection : Redirection)
    (s : Shell) (x : ShellM Json) : Prop :=
  ∀ u, Leads execute s [] u →
    ∃ steps, Delivery execute output (some redirection) s steps (outcome x u)

section

variable {output : Json} {redirection : Redirection}

theorem handsOver_complain (message : Text) :
    HandsOver execute output redirection s (complain message) :=
  fun _ hu => ⟨_, .refused message hu⟩

theorem Moves.handsOver {α : Type} {x : ShellM α} {f : α → ShellM Json}
    (hx : Moves execute Move.IsCall x)
    (hf : ∀ a, HandsOver execute output redirection s (f a)) :
    HandsOver execute output redirection s (x >>= f) := by
  intro u hu
  have hafter : Leads execute s [] (outcome x u).2 := hu.trans (hx.leads u)
  rw [outcome_bind]
  rcases hrun : outcome x u with ⟨failure | a, v⟩
  · rw [hrun] at hafter
    exact ⟨_, .failed failure hafter⟩
  · rw [hrun] at hafter
    exact hf a v hafter

end

theorem exists_delivery (tokens : Tokens) (output : Json) (redirection : Option Redirection)
    (s : Shell) : ∃ steps, Delivery execute output redirection s steps
      (outcome (handOver tokens output redirection) s) := by
  cases redirection with
  | none => exact ⟨_, .said s⟩
  | some redirection =>
    unfold handOver redirect resolve
    cases hp : Path.resolve? s.directory redirection.target with
    | none =>
      rw [outcome_bind, outcome_bind, outcome_get]
      simp only [hp]
      exact ⟨_, .failed _ (.refl s)⟩
    | some p =>
      rw [outcome_bind, outcome_bind, outcome_get]
      simp only [hp]
      refine (moves_isWritable p).handsOver (fun writable => ?_) s (.refl s)
      cases writable with
      | false => exact handsOver_complain _
      | true =>
        cases RedirectionOperator.ofSymbol? redirection.operator.symbol with
        | none => exact handsOver_complain _
        | some op =>
          refine (moves_onVolume _).attempt.handsOver fun r => ?_
          split
          · exact fun u hu => ⟨_, .written hp hu⟩
          · exact handsOver_complain _
          · exact fun u hu => ⟨_, .failed _ hu⟩

theorem Turns.outcome_runHooks {stage : Stage} {output : Option Json} {started : List Hook}
    {r : Except Failure Unit} {u : Shell}
    (h : Turns execute stage tokens output s (hooksNow stage tokens s) started r u) :
    outcome (runHooks execute stage (.string tokens.name) (arguments tokens) output) s = (r, u) :=
  h.outcome_eq

theorem completes_or_fails (execute : Json → ShellM Json) (stage : Stage) (tokens : Tokens)
    (output : Option Json) (s : Shell) :
    (∃ u, Completes execute stage tokens output s u) ∨
      ∃ started f u, Turns execute stage tokens output s (hooksNow stage tokens s) started
        (.error f) u := by
  have hall : ∃ started, Turns execute stage tokens output s _ started _ _ :=
    exists_turns s (hooksNow stage tokens s)
  obtain ⟨started, hturns⟩ := hall
  rcases hrun : outcome (runEach execute stage (.string tokens.name) (arguments tokens) output
    (hooksNow stage tokens s)) s with ⟨f | ⟨⟩, u⟩
  · rw [hrun] at hturns
    exact .inr ⟨started, f, u, hturns⟩
  · rw [hrun] at hturns
    have hstarted := hturns.started_eq
    subst hstarted
    exact .inl ⟨u, hturns⟩

theorem Completes.not_fails {stage : Stage} {output : Option Json} {started : List Hook}
    {f : Failure} {u v : Shell} (h : Completes execute stage tokens output s u)
    (h' : Turns execute stage tokens output s (hooksNow stage tokens s) started (.error f) v) :
    False := by
  have hsame := h.outcome_runHooks.symm.trans h'.outcome_runHooks
  cases hsame

theorem Completes.unique {stage : Stage} {output : Option Json} {u v : Shell}
    (h : Completes execute stage tokens output s u)
    (h' : Completes execute stage tokens output s v) : u = v :=
  (Prod.mk.inj (h.outcome_runHooks.symm.trans h'.outcome_runHooks)).2

theorem Completes.outcome_runStages {u : Shell} (h : Completes execute .before tokens none s u) :
    outcome (runStages execute tokens command) s =
      outcome (Commands.invoke execute command tokens.args >>= fun o =>
        match o with
        | .refused kind message => pure (.refused kind message)
        | .output output => do
          runHooks execute .after (.string tokens.name) (arguments tokens) (some output)
          pure (.output output)) (noted (bodyTurn tokens) u) :=
  (outcome_bind_ok h.outcome_runHooks _).trans rfl

theorem exists_passage (tokens : Tokens) (redirection : Option Redirection) (command : Command)
    (s : Shell) : ∃ reach steps, Passage execute tokens redirection command s reach steps
      (outcome (dispatch execute tokens redirection command) s) := by
  unfold dispatch
  rw [outcome_bind, outcome_attempt]
  rcases completes_or_fails execute .before tokens none s with ⟨u, hbefore⟩ |
    ⟨started, f, u, hbefore⟩
  · rw [hbefore.outcome_runStages, outcome_bind]
    rcases hbody : outcome (Commands.invoke execute command tokens.args) (noted (bodyTurn tokens) u)
      with ⟨f | (output | ⟨kind, message⟩), v⟩
    · exact ⟨_, _, .bodyFailed hbefore hbody⟩
    · rcases completes_or_fails execute .after tokens (some output) v with ⟨w, hafter⟩ |
        ⟨started, f, w, hafter⟩
      · obtain ⟨steps, hdelivery⟩ := exists_delivery tokens output redirection w
        simp only [outcome_bind_ok hafter.outcome_runHooks]
        exact ⟨_, _, .delivered hbefore hbody hafter hdelivery⟩
      · simp only [outcome_bind_error hafter.outcome_runHooks]
        exact ⟨_, _, .stoppedAfter hbefore hbody hafter⟩
    · exact ⟨_, _, .bodyRefused hbefore hbody⟩
  · have hstages : outcome (runStages execute tokens command) s = (.error f, u) :=
      outcome_bind_error hbefore.outcome_runHooks _
    rw [hstages]
    exact ⟨_, _, .stoppedBefore hbefore⟩

theorem leads_body {r : Except Failure Outcome} {u v : Shell}
    (hbody : outcome (Commands.invoke execute command tokens.args) (noted (bodyTurn tokens) u) =
      (r, v)) : Leads execute u [bodyTurn tokens] v := by
  have hinvoke : Moves execute Move.IsCall (Commands.invoke execute command tokens.args) :=
    moves_invoke command tokens.args
  have hafter := hinvoke.leads (noted (bodyTurn tokens) u)
  rw [hbody] at hafter
  exact (leads_noted rfl u).trans hafter

theorem Delivery.leads {output : Json} {steps : List Step} {r : Except Failure Json × Shell}
    (h : Delivery execute output redirection s steps r) : Leads execute s steps r.2 := by
  cases h with
  | said => exact leads_emit .stdout output s
  | written _ hwrite => exact hwrite.trans ((leads_noted rfl _).trans (leads_emit .stdout _ _))
  | refused message hwrite => exact hwrite.trans (leads_complain message _)
  | failed f hwrite => exact hwrite

theorem Delivery.steps_of_error {output : Json} {steps : List Step}
    {r : Except Failure Json × Shell} (h : Delivery execute output redirection s steps r)
    {f : Failure} (hf : r.1 = .error f) : steps = [] := by
  cases h with
  | said =>
    rw [emit_ok] at hf
    cases hf
  | written _ _ =>
    rw [emit_ok] at hf
    cases hf
  | refused message _ =>
    rw [complain, emit_ok] at hf
    cases hf
  | failed _ _ => rfl

def begun (execute : Json → ShellM Json) (tokens : Tokens) (s : Shell) : Shell :=
  (outcome (runHooks execute .before (.string tokens.name) (arguments tokens) none) s).2

def worked (execute : Json → ShellM Json) (tokens : Tokens) (command : Command) (s : Shell) :
    Shell :=
  (outcome (Commands.invoke execute command tokens.args)
    (noted (bodyTurn tokens) (begun execute tokens s))).2

/-- All turns of a line: those of the hooks that are registered at the beginning, the body, and those
of the hooks that are registered after it. -/
def schedule (execute : Json → ShellM Json) (tokens : Tokens) (command : Command) (s : Shell) :
    List Step :=
  (hooksNow .before tokens s).map (turn .before tokens) ++ bodyTurn tokens ::
    (hooksNow .after tokens (worked execute tokens command s)).map (turn .after tokens)

theorem Completes.outcome_body {u : Shell} (h : Completes execute .before tokens none s u) :
    outcome (Commands.invoke execute command tokens.args) (noted (bodyTurn tokens) u) =
      outcome (Commands.invoke execute command tokens.args)
        (noted (bodyTurn tokens) (begun execute tokens s)) := by
  unfold begun
  rw [h.outcome_runHooks]

/-- The hooks before the body complete, and then the body comes to an output. -/
def Succeeds (execute : Json → ShellM Json) (tokens : Tokens) (command : Command) (s : Shell)
    (output : Json) (v : Shell) : Prop :=
  ∃ u, Completes execute .before tokens none s u ∧
    outcome (Commands.invoke execute command tokens.args) (noted (bodyTurn tokens) u) =
      (.ok (.output output), v)

theorem Succeeds.outcome_eq {output : Json} {v : Shell}
    (h : Succeeds execute tokens command s output v) :
    outcome (Commands.invoke execute command tokens.args)
      (noted (bodyTurn tokens) (begun execute tokens s)) = (.ok (.output output), v) := by
  obtain ⟨u, hbefore, hbody⟩ := h
  rw [← hbefore.outcome_body, hbody]

theorem Succeeds.worked_eq {output : Json} {v : Shell}
    (h : Succeeds execute tokens command s output v) : worked execute tokens command s = v :=
  congrArg Prod.snd h.outcome_eq

theorem Succeeds.unique {output output' : Json} {v v' : Shell}
    (h : Succeeds execute tokens command s output v)
    (h' : Succeeds execute tokens command s output' v') : output = output' ∧ v = v' := by
  obtain ⟨houtput, rfl⟩ := Prod.mk.inj (h.outcome_eq.symm.trans h'.outcome_eq)
  exact ⟨by simpa using houtput, rfl⟩

/-- The output of a line is redirected to where a file may be written, and has no octets. -/
def Unwritten (execute : Json → ShellM Json) (tokens : Tokens) (redirection : Option Redirection)
    (command : Command) (s : Shell) : Prop :=
  ∃ r output v w, redirection = some r ∧ Succeeds execute tokens command s output v ∧
    Completes execute .after tokens (some output) v w ∧ Unwritable w output.display r.target

theorem Completes.not_succeeds {u v w : Shell} {r : Except Failure Outcome} {output : Json}
    (h : Completes execute .before tokens none s u)
    (hbody : outcome (Commands.invoke execute command tokens.args) (noted (bodyTurn tokens) u) =
      (r, v)) (hother : ∀ other, r ≠ .ok (.output other)) :
    ¬ Succeeds execute tokens command s output w := by
  intro hsucceeds
  rw [h.outcome_body, hsucceeds.outcome_eq] at hbody
  exact hother output (congrArg Prod.fst hbody).symm

namespace Passage

variable {reach : Reach} {steps : List Step} {r : Except Failure Json × Shell}

theorem leads (h : Passage execute tokens redirection command s reach steps r) :
    Leads execute s steps r.2 := by
  cases h with
  | stoppedBefore hbefore => exact hbefore.leads.trans (leads_complain _ _)
  | bodyFailed hbefore hbody =>
    exact hbefore.leads.trans ((leads_body hbody).trans (leads_complain _ _))
  | bodyRefused hbefore hbody =>
    exact hbefore.leads.trans ((leads_body hbody).trans (leads_complain _ _))
  | stoppedAfter hbefore hbody hafter =>
    exact hbefore.leads.trans ((leads_body hbody).trans (hafter.leads.trans (leads_complain _ _)))
  | delivered hbefore hbody hafter hdelivery =>
    exact hbefore.leads.trans ((leads_body hbody).trans (hafter.leads.trans hdelivery.leads))

theorem exists_turns_prefix (h : Passage execute tokens redirection command s reach steps r) :
    ∃ turns last, steps = turns ++ last ∧ turns <+: schedule execute tokens command s ∧
      ((reach = .delivery ∧ turns = schedule execute tokens command s ∧
          ∃ output v w, Succeeds execute tokens command s output v ∧
            Completes execute .after tokens (some output) v w ∧
            Delivery execute output redirection w last r) ∨
        (reach ≠ .delivery ∧ ∃ text u, last = complaint (Message.orUnknown text) u ∧
          r = outcome (complain (Message.orUnknown text)) u)) := by
  cases h with
  | stoppedBefore hbefore =>
    refine ⟨_, _, rfl, ?_, .inr ⟨nofun, _, _, rfl, rfl⟩⟩
    exact (hbefore.started_prefix.map _).trans (List.prefix_append _ _)
  | bodyFailed hbefore hbody =>
    refine ⟨_ ++ [bodyTurn tokens], _, List.append_cons _ _ _, ?_, .inr ⟨nofun, _, _, rfl, rfl⟩⟩
    exact (List.prefix_append_right_inj _).mpr (List.cons_prefix_cons.mpr ⟨rfl, List.nil_prefix⟩)
  | bodyRefused hbefore hbody =>
    refine ⟨_ ++ [bodyTurn tokens], _, List.append_cons _ _ _, ?_, .inr ⟨nofun, _, _, rfl, rfl⟩⟩
    exact (List.prefix_append_right_inj _).mpr (List.cons_prefix_cons.mpr ⟨rfl, List.nil_prefix⟩)
  | stoppedAfter hbefore hbody hafter =>
    have hworked := Succeeds.worked_eq ⟨_, hbefore, hbody⟩
    refine ⟨_ ++ bodyTurn tokens :: _, _, (List.append_assoc _ (_ :: _) _).symm, ?_,
      .inr ⟨nofun, _, _, rfl, rfl⟩⟩
    rw [schedule, hworked]
    exact (List.prefix_append_right_inj _).mpr
      (List.cons_prefix_cons.mpr ⟨rfl, hafter.started_prefix.map _⟩)
  | delivered hbefore hbody hafter hdelivery =>
    have hworked := Succeeds.worked_eq ⟨_, hbefore, hbody⟩
    refine ⟨schedule execute tokens command s, _, ?_, List.prefix_refl _,
      .inl ⟨rfl, rfl, _, _, _, ⟨_, hbefore, hbody⟩, hafter, hdelivery⟩⟩
    rw [schedule, hworked]
    exact (List.append_assoc _ (_ :: _) _).symm

theorem body_iff (h : Passage execute tokens redirection command s reach steps r) :
    reach ≠ .before ↔ ∃ u, Completes execute .before tokens none s u := by
  cases h with
  | stoppedBefore hbefore =>
    exact ⟨fun hne => absurd rfl hne, fun ⟨_, hu⟩ => (hu.not_fails hbefore).elim⟩
  | bodyFailed hbefore _ => exact ⟨fun _ => ⟨_, hbefore⟩, fun _ => nofun⟩
  | bodyRefused hbefore _ => exact ⟨fun _ => ⟨_, hbefore⟩, fun _ => nofun⟩
  | stoppedAfter hbefore _ _ => exact ⟨fun _ => ⟨_, hbefore⟩, fun _ => nofun⟩
  | delivered hbefore _ _ _ => exact ⟨fun _ => ⟨_, hbefore⟩, fun _ => nofun⟩

theorem after_iff (h : Passage execute tokens redirection command s reach steps r) :
    (reach = .after ∨ reach = .delivery) ↔ ∃ output v, Succeeds execute tokens command s output v := by
  cases h with
  | stoppedBefore hbefore =>
    exact ⟨nofun, fun ⟨_, _, _, hu, _⟩ => (hu.not_fails hbefore).elim⟩
  | bodyFailed hbefore hbody =>
    exact ⟨nofun, fun ⟨_, _, hs⟩ => (hbefore.not_succeeds hbody nofun hs).elim⟩
  | bodyRefused hbefore hbody =>
    exact ⟨nofun, fun ⟨_, _, hs⟩ => (hbefore.not_succeeds hbody nofun hs).elim⟩
  | stoppedAfter hbefore hbody _ =>
    exact ⟨fun _ => ⟨_, _, _, hbefore, hbody⟩, fun _ => .inl rfl⟩
  | delivered hbefore hbody _ _ =>
    exact ⟨fun _ => ⟨_, _, _, hbefore, hbody⟩, fun _ => .inr rfl⟩

theorem delivery_iff (h : Passage execute tokens redirection command s reach steps r) :
    reach = .delivery ↔ ∃ output v w, Succeeds execute tokens command s output v ∧
      Completes execute .after tokens (some output) v w := by
  cases h with
  | stoppedBefore hbefore =>
    exact ⟨nofun, fun ⟨_, _, _, ⟨_, hu, _⟩, _⟩ => (hu.not_fails hbefore).elim⟩
  | bodyFailed hbefore hbody =>
    exact ⟨nofun, fun ⟨_, _, _, hs, _⟩ => (hbefore.not_succeeds hbody nofun hs).elim⟩
  | bodyRefused hbefore hbody =>
    exact ⟨nofun, fun ⟨_, _, _, hs, _⟩ => (hbefore.not_succeeds hbody nofun hs).elim⟩
  | stoppedAfter hbefore hbody hafter =>
    refine ⟨nofun, fun ⟨output, v, w, hs, hdone⟩ => ?_⟩
    have hsame := (Succeeds.outcome_eq ⟨_, hbefore, hbody⟩).symm.trans hs.outcome_eq
    cases hsame
    exact (hdone.not_fails hafter).elim
  | delivered hbefore hbody hafter _ =>
    exact ⟨fun _ => ⟨_, _, _, ⟨_, hbefore, hbody⟩, hafter⟩, fun _ => rfl⟩

end Passage

section

variable {config : Config} {registry : Registry Command} {released : Bool} {depth : Nat}

theorem Completes.standing {stage : Stage} {output : Option Json} {u : Shell}
    (hs : Standing config registry released s)
    (h : Completes (executeWithin depth) stage tokens output s u) :
    Standing config registry released u := by
  have hkeeps := sustained_standing.keeps_runHooks (sustained_standing.keeps_executeWithin depth)
    stage (.string tokens.name) (arguments tokens) output s hs
  rw [h.outcome_runHooks] at hkeeps
  exact hkeeps.2

theorem Succeeds.standing {output : Json} {v : Shell} (hs : Standing config registry released s)
    (h : Succeeds (executeWithin depth) tokens command s output v) :
    Standing config registry released v := by
  obtain ⟨u, hbefore, hbody⟩ := h
  have hu : Standing config registry released u := hbefore.standing hs
  have hkeeps := sustained_standing.keeps_invoke (sustained_standing.keeps_executeWithin depth)
    command tokens.args (noted (bodyTurn tokens) u) { hu with }
  rw [hbody] at hkeeps
  exact hkeeps.2

theorem Passage.fails_iff {reach : Reach} {steps : List Step} {r : Except Failure Json × Shell}
    (hs : Standing config registry released s)
    (h : Passage (executeWithin depth) tokens redirection command s reach steps r) (f : Failure) :
    r.1 = .error f ↔
      (f = .volume .released ∧ reach = .delivery ∧ redirection.isSome = true ∧ released = true) ∨
      (f = .volume .unencodable ∧ released = false ∧
        Unwritten (executeWithin depth) tokens redirection command s) := by
  have hcomplaint : ∀ message u, (outcome (complain message) u).1 ≠ .error f := by
    intro message u hf
    rw [complain, emit_ok] at hf
    cases hf
  have hother : reach ≠ .delivery → (∃ message u, r = outcome (complain message) u) →
      (r.1 = .error f ↔ (f = .volume .released ∧ reach = .delivery ∧ redirection.isSome = true ∧
          released = true) ∨
        (f = .volume .unencodable ∧ released = false ∧
          Unwritten (executeWithin depth) tokens redirection command s)) := by
    rintro hreach ⟨message, u, rfl⟩
    refine iff_of_false (hcomplaint message u) ?_
    rintro (⟨-, hdelivery, -⟩ | ⟨-, -, redirection, output, v, w, -, hbody, hafter, -⟩)
    · exact hreach hdelivery
    · exact hreach (h.delivery_iff.mpr ⟨output, v, w, hbody, hafter⟩)
  cases h with
  | stoppedBefore _ => exact hother nofun ⟨_, _, rfl⟩
  | bodyFailed _ _ => exact hother nofun ⟨_, _, rfl⟩
  | bodyRefused _ _ => exact hother nofun ⟨_, _, rfl⟩
  | stoppedAfter _ _ _ => exact hother nofun ⟨_, _, rfl⟩
  | @delivered output delivery u v w hbefore hbody hafter hdelivery =>
    have hv : Standing config registry released v := Succeeds.standing hs ⟨u, hbefore, hbody⟩
    have hw : Standing config registry released w := hafter.standing hv
    have hunwritten : ∀ redirection', Unwritten (executeWithin depth) tokens (some redirection')
        command s ↔ Unwritable w output.display redirection'.target := by
      intro redirection'
      refine ⟨?_, fun hoctets => ⟨_, output, v, w, rfl, ⟨u, hbefore, hbody⟩, hafter, hoctets⟩⟩
      rintro ⟨_, output', v', w', hsome, hbody', hafter', hoctets⟩
      obtain rfl := Option.some.inj hsome
      obtain ⟨rfl, rfl⟩ := Succeeds.unique ⟨u, hbefore, hbody⟩ hbody'
      obtain rfl := hafter.unique hafter'
      exact hoctets
    rcases handOver_cases hw tokens output redirection with ⟨redirection', rfl, rfl, hfails⟩ |
      ⟨redirection', rfl, rfl, hoctets, hfails⟩ |
      ⟨redirection', rfl, rfl, hoctets, c, message, hspoken, -⟩ | ⟨rfl, hspoken⟩
    · simp [hfails, eq_comm]
    · simp [hfails, hunwritten, hoctets, eq_comm]
    · simp [hspoken.1, hunwritten, hoctets]
    · rw [hspoken.1]
      exact iff_of_false nofun fun h => by
        rcases h with ⟨-, -, hsome, -⟩ | ⟨-, -, redirection', output', v', w', hsome, -⟩
        · cases hsome
        · cases hsome

end

/-- The stages of a line follow in order. In every shell, with whatever hooks, a line that is for a
command goes a passage: each hook and the body are run on the arguments of the line; the steps that
the line records itself are the first ones of the schedule and then, if nothing fails, those of
handing the output over, and otherwise those of one complaint about what failed first. The body
starts if and only if all hooks before it complete; the hooks after it have their turn if and only if
it then succeeds; the output is handed over if and only if all of these complete too. Two failures are not
complained about: that of a redirection on a released volume, and that of an output without octets which
is redirected to where a file may be written. A line that is for no command comes to one complaint. -/
theorem stages_follow_in_order (depth : Nat) (line : Json) (s : Shell) :
    (∀ tokens redirection command, Resolves s line tokens redirection command →
      ∃ reach steps,
        Passage (executeWithin depth) tokens redirection command s reach steps
          (outcome (executeWithin (depth + 1) line) s) ∧
        Leads (executeWithin depth) s steps (outcome (executeWithin (depth + 1) line) s).2 ∧
        (∃ turns last, steps = turns ++ last ∧
          turns <+: schedule (executeWithin depth) tokens command s ∧
          ((reach = .delivery ∧ turns = schedule (executeWithin depth) tokens command s ∧
              ∃ output v w, Succeeds (executeWithin depth) tokens command s output v ∧
                Completes (executeWithin depth) .after tokens (some output) v w ∧
                Delivery (executeWithin depth) output redirection w last
                  (outcome (executeWithin (depth + 1) line) s)) ∨
            (reach ≠ .delivery ∧ ∃ text u, last = complaint (Message.orUnknown text) u ∧
              outcome (executeWithin (depth + 1) line) s =
                outcome (complain (Message.orUnknown text)) u))) ∧
        (reach ≠ .before ↔ ∃ u, Completes (executeWithin depth) .before tokens none s u) ∧
        ((reach = .after ∨ reach = .delivery) ↔
          ∃ output v, Succeeds (executeWithin depth) tokens command s output v) ∧
        (reach = .delivery ↔ ∃ output v w,
          Succeeds (executeWithin depth) tokens command s output v ∧
          Completes (executeWithin depth) .after tokens (some output) v w) ∧
        (Path.isAbsolute s.directory = true → ∀ f,
          (outcome (executeWithin (depth + 1) line) s).1 = .error f ↔
            (f = .volume .released ∧ reach = .delivery ∧ redirection.isSome = true ∧
              s.volume.released = true) ∨
            (f = .volume .unencodable ∧ s.volume.released = false ∧
              Unwritten (executeWithin depth) tokens redirection command s))) ∧
      ((¬ ∃ tokens redirection command, Resolves s line tokens redirection command) →
        ∃ message, outcome (executeWithin (depth + 1) line) s = outcome (complain message) s ∧
          Leads (executeWithin depth) s (complaint message s)
            (outcome (executeWithin (depth + 1) line) s).2) := by
  constructor
  · intro tokens redirection command hresolves
    have hrun : outcome (executeWithin (depth + 1) line) s =
        outcome (dispatch (executeWithin depth) tokens redirection command) s :=
      hresolves.outcome_eq (executeWithin depth)
    rw [hrun]
    obtain ⟨reach, steps, hpassage⟩ : ∃ reach steps, Passage (executeWithin depth) tokens
        redirection command s reach steps _ := exists_passage tokens redirection command s
    exact ⟨reach, steps, hpassage, hpassage.leads, hpassage.exists_turns_prefix,
      hpassage.body_iff, hpassage.after_iff, hpassage.delivery_iff,
      fun habsolute => hpassage.fails_iff ⟨rfl, rfl, rfl, habsolute⟩⟩
  · intro hnone
    obtain ⟨message, hrun⟩ := exists_complaint (executeWithin depth) hnone
    have hline : outcome (executeWithin (depth + 1) line) s = outcome (complain message) s := hrun
    rw [hline]
    exact ⟨message, rfl, leads_complain message s⟩

/-- Hooks that change their own lists of arguments complete, and so does the command; then the
redirection fails, because the volume is released, and nothing is said about it. A line that is no
text is complained about. -/
theorem stages_follow_in_order_closed_echo :
    let before : Hook := ⟨.ofString "before", [.append .null, .execute .null]⟩
    let after : Hook := ⟨.ofString "after", [.append .null]⟩
    ∃ first s : Shell, build 0 .usual builtins = .ok first ∧
      s = { first with
        volume := first.volume.release 1
        hooksBefore := [(.ofString "echo", before)]
        hooksAfter := [(.ofString "echo", after)] } ∧
      (outcome (executeWithin 2 (.ofString "echo hi > /f")) s).1 = .error (.volume .released) ∧
      Leads (executeWithin 1) s
        [.hookStarted .before (.ofString "echo") (.ofString "before") [.ofString "hi"],
          .bodyStarted "echo" ["hi"],
          .hookStarted .after (.ofString "echo") (.ofString "after") [.ofString "hi"]]
        (outcome (executeWithin 2 (.ofString "echo hi > /f")) s).2 ∧
      ∃ message, outcome (executeWithin 2 .null) s = outcome (complain message) s := by
  intro before after
  have hline : (Json.ofString "echo hi > /f").text? = some "echo hi > /f" := by decide +kernel
  have hblank : CommandLine.isBlankLine "echo hi > /f" = false := by decide +kernel
  have hparse : CommandLine.parse "echo hi > /f" = ⟨"echo hi", some ⟨.write, "/f"⟩⟩ := by
    decide +kernel
  have htokens : Tokens.ofText "echo hi" = .ok ⟨"echo", ["hi"]⟩ := by decide +kernel
  obtain ⟨first, hfirst⟩ : ∃ first, build 0 .usual builtins = .ok first := ⟨_, rfl⟩
  let s : Shell := { first with
    volume := first.volume.release 1
    hooksBefore := [(.ofString "echo", before)]
    hooksAfter := [(.ofString "echo", after)] }
  have hresolves : Resolves s (.ofString "echo hi > /f") ⟨"echo", ["hi"]⟩ (some ⟨.write, "/f"⟩)
      (.builtin .echo) := by
    refine ⟨⟨"echo hi > /f", hline, hblank, ?_, ?_⟩, by decide, ?_⟩
    · rw [hparse, htokens]
    · rw [hparse]
    · obtain rfl := Except.ok.inj hfirst
      rfl
  have hnone : ¬ ∃ tokens redirection command, Resolves s .null tokens redirection command := by
    rintro ⟨_, _, _, ⟨_, ⟨⟩, _⟩, _, _⟩
  have habsolute : Path.isAbsolute s.directory = true := by
    obtain rfl := Except.ok.inj hfirst
    rfl
  obtain ⟨v, w, hsucceeds, hafter, hschedule⟩ : ∃ v w,
      Succeeds (executeWithin 1) ⟨"echo", ["hi"]⟩ (.builtin .echo) s (.ofString "hi") v ∧
      Completes (executeWithin 1) .after ⟨"echo", ["hi"]⟩ (some (.ofString "hi")) v w ∧
      schedule (executeWithin 1) ⟨"echo", ["hi"]⟩ (.builtin .echo) s =
        [.hookStarted .before (.ofString "echo") (.ofString "before") [.ofString "hi"],
          .bodyStarted "echo" ["hi"],
          .hookStarted .after (.ofString "echo") (.ofString "after") [.ofString "hi"]] := by
    obtain rfl := Except.ok.inj hfirst
    exact ⟨_, _, ⟨_, .next rfl (.done _), rfl⟩, .next rfl (.done _), rfl⟩
  obtain ⟨hcommand, -⟩ := stages_follow_in_order 1 (.ofString "echo hi > /f") s
  obtain ⟨reach, steps, -, hleads, ⟨turns, last, rfl, -, hlast⟩, -, -, hdelivery, hfails⟩ :=
    hcommand _ _ _ hresolves
  have hreach : reach = .delivery := hdelivery.mpr ⟨_, v, w, hsucceeds, hafter⟩
  have herror := (hfails habsolute _).mpr (.inl ⟨rfl, hreach, rfl, rfl⟩)
  refine ⟨first, s, hfirst, rfl, herror, ?_, ?_⟩
  · rcases hlast with ⟨-, rfl, output, v', w', -, -, hdelivered⟩ | ⟨hne, -⟩
    · rw [hschedule, hdelivered.steps_of_error herror] at hleads
      exact hleads
    · exact absurd hreach hne
  · obtain ⟨-, hother⟩ := stages_follow_in_order 1 .null s
    obtain ⟨message, hrun, -⟩ := hother hnone
    exact ⟨message, hrun⟩

end MemoryShell.Shell
