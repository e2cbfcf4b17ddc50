import MemoryShell.Proofs.Isolate.Conduct
import MemoryShell.Shell.Isolation

set_option autoImplicit false

namespace MemoryShell.Isolate

/-- A message and how long nothing came before it. -/
structure Arrival where
  idle : Nat
  message : Message

def Arrival.events (a : Arrival) : List Event :=
  List.replicate a.idle .idle ++ [.message a.message]

def arriving (past : List Arrival) : List Event :=
  past.flatMap Arrival.events

theorem arriving_append (past more : List Arrival) :
    arriving (past ++ more) = arriving past ++ arriving more :=
  List.flatMap_append

namespace Account

def outLines (a : Account) : List Text :=
  a.acts.filterMap Act.logged?

def errLines (a : Account) : List Text :=
  a.acts.filterMap Act.complained? ++ (a.failure.map ScriptError.message).toList

def calls (a : Account) : List (Request × Except Raised Volume.Value) :=
  a.acts.filterMap Act.call?

end Account

theorem texts_map_string (index : Nat) (lines : List Text) :
    Demand.texts index (lines.map .string) = .ok lines := by
  induction lines generalizing index with
  | nil => rfl
  | cons first rest ih =>
    rw [List.map_cons, Demand.texts, ih]
    rfl

theorem written_map_string (lines : List Text) :
    written (lines.map .string) = .ok (Text.strip lines.flatten) := by
  rw [written, texts_map_string]
  rfl

def Service.told (a : Account) (replies : List Reply) : Service :=
  ⟨a.outLines.map .string, a.errLines.map .string, replies, 0, none⟩

theorem Service.output_told (a : Account) (replies : List Reply) :
    (told a replies).output = .ok ⟨Text.strip a.outLines.flatten, Text.strip a.errLines.flatten⟩ := by
  simp only [output, told, written_map_string]

theorem leavesNoTime_of_pos {n : Int} (h : 0 < n) (hseconds : hasSeconds n = true) :
    leavesNoTime (.integer n) = .ok false := by
  rw [leavesNoTime, hseconds, if_pos rfl]
  have hgrace : ¬ n + graceMs ≤ 0 := by
    unfold graceMs
    omega
  simp [hgrace]

section

variable {directory : Text} {now : Int} {timeoutMs exitCode : Json} {wasReady : Bool}

theorem serve_idle (n : Nat) (rest : List Event) :
    serve directory now timeoutMs exitCode wasReady (List.replicate n .idle ++ rest) =
      serve directory now timeoutMs exitCode wasReady rest := by
  induction n with
  | zero => rfl
  | succ n ih =>
    rw [List.replicate_succ, List.cons_append, serve]
    exact ih

theorem serve_arrival (a : Arrival) (rest : List Event) :
    serve directory now timeoutMs exitCode wasReady (a.events ++ rest) =
      serve directory now timeoutMs exitCode wasReady (.message a.message :: rest) := by
  rw [Arrival.events, List.append_assoc, serve_idle]
  rfl

theorem serve_arriving_cons (a : Arrival) (past : List Arrival) :
    serve directory now timeoutMs exitCode wasReady (arriving (a :: past)) =
      serve directory now timeoutMs exitCode wasReady (.message a.message :: arriving past) := by
  rw [arriving, List.flatMap_cons, serve_arrival]
  rfl

theorem serve_ending (failure : Option ScriptError) (s : Shell) :
    (serve directory now timeoutMs exitCode wasReady [.message (Account.ending failure)]).run
      s.volume = (Service.told ⟨[], failure, s⟩ [], s.volume) := by
  cases failure <;> cases wasReady <;> rfl

theorem serve_out (content : Json) (rest : List Event) (v : Volume) :
    (serve directory now timeoutMs exitCode wasReady (.message (.out content) :: rest)).run v =
      let (t, w) := (serve directory now timeoutMs exitCode wasReady rest).run v
      ({ t with out := content :: t.out }, w) := by
  rw [serve]
  rfl

theorem serve_err (content : Json) (rest : List Event) (v : Volume) :
    (serve directory now timeoutMs exitCode wasReady (.message (.err content) :: rest)).run v =
      let (t, w) := (serve directory now timeoutMs exitCode wasReady rest).run v
      ({ t with err := content :: t.err }, w) := by
  rw [serve]
  rfl

theorem serve_request {r : Request} {reply : Reply} {v w : Volume}
    (h : outcome (r.answer directory now) v = (.ok reply, w)) (rest : List Event) :
    (serve directory now timeoutMs exitCode wasReady (.message (.request r) :: rest)).run v =
      let (t, u) := (serve directory now timeoutMs exitCode wasReady rest).run w
      ({ t with replies := reply :: t.replies }, u) := by
  have hrun : (r.answer directory now).run.run v = (.ok reply, w) := h
  rw [serve, StateT.run_bind, hrun]
  rfl

theorem exists_serve_messages {s : Shell} (habs : Path.isAbsolute s.directory = true) (c : Conduct)
    {past : List Arrival} (h : past.map Arrival.message = (c.direct s).messages) :
    ∃ replies : List Reply, replies.map heard = (c.direct s).calls.map Prod.snd ∧
      (serve s.directory s.clock timeoutMs exitCode wasReady (arriving past)).run s.volume =
        (.told (c.direct s) replies, (c.direct s).shell.volume) := by
  induction c generalizing s past with
  | ended failure =>
    obtain ⟨a, rfl, ha⟩ := List.map_eq_singleton_iff.mp h
    refine ⟨[], rfl, ?_⟩
    rw [serve_arriving_cons, ha]
    exact serve_ending failure s
  | log args next ih =>
    obtain ⟨a, past, rfl, ha, hpast⟩ := List.map_eq_cons_iff.mp h
    obtain ⟨replies, hreplies, hserve⟩ := ih habs hpast
    refine ⟨replies, hreplies, ?_⟩
    rw [serve_arriving_cons, ha, Act.message, serve_out, hserve]
    rfl
  | error args next ih =>
    obtain ⟨a, past, rfl, ha, hpast⟩ := List.map_eq_cons_iff.mp h
    obtain ⟨replies, hreplies, hserve⟩ := ih habs hpast
    refine ⟨replies, hreplies, ?_⟩
    rw [serve_arriving_cons, ha, Act.message, serve_err, hserve]
    rfl
  | call r next ih =>
    obtain ⟨a, past, rfl, ha, hpast⟩ := List.map_eq_cons_iff.mp h
    obtain ⟨reply, hanswer, hheard⟩ := exists_reply_eq habs r
    -- the call changes only the volume, so what follows is served from the same directory
    have hshell := callDirectly_shell r.toRequest s
    have habs' : Path.isAbsolute (callDirectly r.toRequest s).2.directory = true := by
      rw [hshell]
      exact habs
    obtain ⟨replies, hreplies, hserve⟩ := ih _ habs' hpast
    rw [hshell] at hserve
    refine ⟨reply :: replies, ?_, ?_⟩
    · rw [List.map_cons, hheard, hreplies]
      rfl
    · rw [serve_arriving_cons, ha, Act.message, serve_request hanswer, hserve, ← hshell]
      rfl

theorem exists_serve_account {s : Shell} (habs : Path.isAbsolute s.directory = true)
    (htime : leavesNoTime timeoutMs = .ok false) (exitCode : Json) (c : Conduct)
    {past : List Arrival} (h : past.map Arrival.message = .ready :: (c.direct s).messages) :
    ∃ replies : List Reply, replies.map heard = (c.direct s).calls.map Prod.snd ∧
      (serve s.directory s.clock timeoutMs exitCode false (arriving past)).run s.volume =
        (.told (c.direct s) replies, (c.direct s).shell.volume) := by
  obtain ⟨a, past, rfl, ha, hpast⟩ := List.map_eq_cons_iff.mp h
  obtain ⟨replies, hreplies, hserve⟩ := exists_serve_messages habs c hpast
  refine ⟨replies, hreplies, ?_⟩
  rw [serve_arriving_cons, ha, serve, htime]
  exact hserve

theorem replies_prefix (past more : List Event) (v : Volume) :
    ((serve directory now timeoutMs exitCode wasReady past).run v).1.replies <+:
      ((serve directory now timeoutMs exitCode wasReady (past ++ more)).run v).1.replies := by
  induction past generalizing wasReady v with
  | nil =>
    have hnone : ((serve directory now timeoutMs exitCode wasReady []).run v).1.replies = [] := by
      rw [serve]
      rfl
    rw [hnone]
    exact List.nil_prefix
  | cons e past ih =>
    rw [List.cons_append]
    cases e with
    | idle =>
      rw [serve, serve]
      exact ih v
    | ended | unreceived f =>
      rw [serve, serve]
      exact List.prefix_rfl
    | orphaned r =>
      rw [serve, serve, StateT.run_bind, StateT.run_bind]
      rcases (r.answer directory now).run.run v with ⟨e | reply, w⟩
      · exact List.prefix_rfl
      · exact List.prefix_rfl
    | message m =>
      cases m with
      | out content =>
        rw [serve_out, serve_out]
        exact ih v
      | err content =>
        rw [serve_err, serve_err]
        exact ih v
      | unknown =>
        rw [serve, serve]
        exact ih v
      | done | failed content | misfit f =>
        rw [serve, serve]
        exact List.prefix_rfl
      | ready =>
        cases wasReady with
        | true =>
          rw [serve, serve]
          exact ih v
        | false =>
          rw [serve, serve]
          cases leavesNoTime timeoutMs with
          | error f => exact List.prefix_rfl
          | ok none =>
            cases none with
            | true => exact List.prefix_rfl
            | false => exact ih v
      | request r =>
        rcases hanswer : outcome (r.answer directory now) v with ⟨e | reply, w⟩
        · have hrun : (r.answer directory now).run.run v = (.error e, w) := hanswer
          rw [serve, serve, StateT.run_bind, StateT.run_bind, hrun]
          exact List.prefix_rfl
        · rw [serve_request hanswer, serve_request hanswer]
          exact List.cons_prefix_cons.mpr ⟨rfl, ih w⟩

/-- A message that neither ends the service nor makes it fail. -/
def Message.IsOpen (m : Message) : Prop :=
  m ≠ .done ∧ (∀ content, m ≠ .failed content) ∧ ∀ f, m ≠ .misfit f

def Message.request? : Message → Option Request
  | .request r => some r
  | _ => none

theorem Act.isOpen_message (act : Act) : act.message.IsOpen := by
  cases act <;> simp [message, Message.IsOpen]

theorem requests_sent (acts : List Act) (last : List Message) :
    (.ready :: acts.map Act.message ++ last).filterMap Message.request? =
      (acts.filterMap Act.call?).map Prod.fst ++ last.filterMap Message.request? := by
  have hacts : (acts.map Act.message).filterMap Message.request? =
      (acts.filterMap Act.call?).map Prod.fst := by
    rw [List.filterMap_map, List.map_filterMap]
    congr 1
    funext act
    cases act <;> rfl
  rw [← hacts, ← List.filterMap_append]
  rfl

theorem length_replies {s : Shell} (habs : Path.isAbsolute s.directory = true)
    (htime : leavesNoTime timeoutMs = .ok false) {past : List Arrival}
    (hopen : ∀ a ∈ past, a.message.IsOpen) (v : Volume) :
    ((serve s.directory s.clock timeoutMs exitCode wasReady (arriving past)).run v).1.replies.length
      = ((past.map Arrival.message).filterMap Message.request?).length := by
  induction past generalizing wasReady v with
  | nil =>
    rw [arriving, List.flatMap_nil, serve]
    rfl
  | cons a past ih =>
    obtain ⟨ha, hpast⟩ := List.forall_mem_cons.mp hopen
    rw [serve_arriving_cons, List.map_cons, List.filterMap_cons]
    cases hm : a.message with
    | ready =>
      cases wasReady with
      | true =>
        rw [serve]
        exact ih hpast v
      | false =>
        rw [serve, htime]
        exact ih hpast v
    | out content =>
      rw [serve_out]
      exact ih hpast v
    | err content =>
      rw [serve_err]
      exact ih hpast v
    | request r =>
      obtain ⟨reply, w, hanswer, -⟩ := r.exists_outcome_answer habs s.clock v
      rw [serve_request hanswer]
      exact congrArg (· + 1) (ih hpast w)
    | unknown =>
      rw [serve]
      exact ih hpast v
    | done => exact absurd hm ha.1
    | failed content => exact absurd hm (ha.2.1 content)
    | misfit f => exact absurd hm (ha.2.2 f)

end

theorem outcome_serve (p : Process) (limits : Limits) (s : Shell) :
    outcome (Shell.serve p limits) s =
      let served :=
        (serve s.directory s.clock limits.timeoutMs p.exitCode false p.events).run s.volume
      (.ok served.1, { s with volume := served.2 }) := by
  rw [Shell.serve, outcome_bind_ok (outcome_get s), Shell.outcome_onVolume]
  rfl

end MemoryShell.Isolate
