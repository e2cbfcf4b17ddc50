import MemoryShell.Proofs.Isolate.Service

/-!
An isolate and its host, with a pipe between them. The code in the isolate writes and asks without
waiting for what it wrote to arrive, but after a request it waits for the reply. The host takes what
arrives, message by message, whenever it gets to it. However the two take turns, they come to an end,
and what was done is what the same conduct does with calls on the shell itself.
-/

set_option autoImplicit false

namespace MemoryShell.Isolate

/-- What goes on inside an isolate: code acts, or waits for the reply to a request, or is gone. -/
inductive Inside
  | acting (c : Conduct)
  | waiting (r : Request.Offered) (next : Except Raised Volume.Value → Conduct)
  | gone (failure : Option ScriptError)

def Inside.pending : Inside → List Message
  | .acting _ => []
  | .waiting r _ => [.request r.toRequest]
  | .gone failure => [Account.ending failure]

def Inside.rest : Inside → Shell → Account
  | .acting c, s => c.direct s
  | .waiting r next, s => (Conduct.call r next).direct s
  | .gone failure, s => ⟨[], failure, s⟩

/-- An isolate and its pipe: what goes on inside, the messages under way, what has arrived, the number
of replies that were received, and what was done. -/
structure Exchange where
  inside : Inside
  underway : List Message
  past : List Arrival
  received : Nat
  acts : List Act

namespace Exchange

def start (c : Conduct) : Exchange :=
  ⟨.acting c.enclosed, [.ready], [], 0, []⟩

variable {s : Shell} {limits : Limits} {c : Conduct}

def replies (s : Shell) (limits : Limits) (past : List Arrival) : List Reply :=
  ((serve s.directory s.clock limits.timeoutMs .null false (arriving past)).run s.volume).1.replies

/-- One of the two does something. -/
inductive Step (s : Shell) (limits : Limits) : Exchange → Exchange → Prop
  | log (args : List Json) (next : Conduct) (underway : List Message) (past : List Arrival) (n : Nat)
      (acts : List Act) :
    Step s limits ⟨.acting (.log args next), underway, past, n, acts⟩
      ⟨.acting next, underway ++ [.out (.string (line args))], past, n, acts ++ [.log args]⟩
  | error (args : List Json) (next : Conduct) (underway : List Message) (past : List Arrival)
      (n : Nat) (acts : List Act) :
    Step s limits ⟨.acting (.error args next), underway, past, n, acts⟩
      ⟨.acting next, underway ++ [.err (.string (line args))], past, n, acts ++ [.error args]⟩
  | ask (r : Request.Offered) (next : Except Raised Volume.Value → Conduct)
      (underway : List Message) (past : List Arrival) (n : Nat) (acts : List Act) :
    Step s limits ⟨.acting (.call r next), underway, past, n, acts⟩
      ⟨.waiting r next, underway ++ [.request r.toRequest], past, n, acts⟩
  | finish (failure : Option ScriptError) (underway : List Message) (past : List Arrival) (n : Nat)
      (acts : List Act) :
    Step s limits ⟨.acting (.ended failure), underway, past, n, acts⟩
      ⟨.gone failure, underway ++ [Account.ending failure], past, n, acts⟩
  | take (inside : Inside) (idle : Nat) (m : Message) (underway : List Message)
      (past : List Arrival) (n : Nat) (acts : List Act) :
    Step s limits ⟨inside, m :: underway, past, n, acts⟩
      ⟨inside, underway, past ++ [⟨idle, m⟩], n, acts⟩
  | hear (r : Request.Offered) (next : Except Raised Volume.Value → Conduct)
      (underway : List Message) (past : List Arrival) (n : Nat) (acts : List Act) (reply : Reply)
      (given : (replies s limits past)[n]? = some reply) :
    Step s limits ⟨.waiting r next, underway, past, n, acts⟩
      ⟨.acting (next (heard reply)), underway, past, n + 1,
        acts ++ [.call r.toRequest (heard reply)]⟩

/-- What can be reached from the start of a conduct in so many steps. -/
inductive Reaches (s : Shell) (limits : Limits) (c : Conduct) : Nat → Exchange → Prop
  | start : Reaches s limits c 0 (.start c)
  | step {n : Nat} {x y : Exchange} (hx : Reaches s limits c n x) (h : Step s limits x y) :
    Reaches s limits c (n + 1) y

/-- Neither can do anything more. -/
def Settled (s : Shell) (limits : Limits) (x : Exchange) : Prop :=
  ∀ y, ¬ Step s limits x y

/-- What holds at any time: what was sent is what was done, with at most one message that nothing
done tells of; each call that was made has taken one reply; and what was done, with what is still to
be done, is what the conduct does directly. -/
structure Tracks (s : Shell) (c : Conduct) (n : Nat) (x : Exchange) : Prop where
  sent : x.past.map Arrival.message ++ x.underway =
    .ready :: x.acts.map Act.message ++ x.inside.pending
  received : x.received = (x.acts.filterMap Act.call?).length
  forecast : ∃ v, c.direct s = (x.inside.rest { s with volume := v }).after x.acts
  steps : n = x.past.length + x.acts.length + x.received + x.inside.pending.length

theorem tracks_start (s : Shell) (c : Conduct) : Tracks s c.enclosed 0 (start c) where
  sent := rfl
  received := rfl
  forecast := ⟨s.volume, rfl⟩
  steps := rfl

theorem Tracks.sends {n steps : Nat} {first next : Conduct} {underway : List Message}
    {past : List Arrival} {acts : List Act} {act : Act}
    (hx : Tracks s c steps ⟨.acting first, underway, past, n, acts⟩)
    (hnext : ∀ t, first.direct t = (next.direct t).after [act]) (hact : act.call? = none) :
    Tracks s c (steps + 1) ⟨.acting next, underway ++ [act.message], past, n, acts ++ [act]⟩ := by
  obtain ⟨hsent, hreceived, ⟨v, hv⟩, hsteps⟩ := hx
  refine ⟨?_, ?_, ⟨v, ?_⟩, ?_⟩
  · rw [← List.append_assoc, hsent]
    simp [Inside.pending]
  · simpa [hact] using hreceived
  · rw [hv]
    exact (congrArg (Account.after · acts) (hnext _)).trans (Account.after_after _ acts [act])
  · simp only [Inside.pending, List.length_append, List.length_singleton] at hsteps ⊢
    omega

theorem Tracks.asks {n steps : Nat} {first : Conduct} {underway : List Message}
    {past : List Arrival} {acts : List Act}
    (hx : Tracks s c steps ⟨.acting first, underway, past, n, acts⟩) {inside : Inside}
    (hrest : ∀ t, inside.rest t = first.direct t) (hpending : inside.pending.length = 1) :
    Tracks s c (steps + 1) ⟨inside, underway ++ inside.pending, past, n, acts⟩ := by
  obtain ⟨hsent, hreceived, ⟨v, hv⟩, hsteps⟩ := hx
  refine ⟨?_, hreceived, ⟨v, ?_⟩, ?_⟩
  · rw [← List.append_assoc, hsent]
    simp [Inside.pending]
  · rw [hrest]
    exact hv
  · simp only [Inside.pending, List.length_nil] at hsteps
    simp only [hpending]
    omega

theorem Tracks.acts_prefix {n : Nat} {x : Exchange} (h : Tracks s c n x) :
    x.acts <+: (c.direct s).acts := by
  obtain ⟨v, hv⟩ := h.forecast
  rw [hv]
  exact List.prefix_append _ _

theorem Tracks.steps_le {n : Nat} {x : Exchange} (h : Tracks s c n x) :
    n ≤ 3 * (c.direct s).acts.length + 3 := by
  have hacts := h.acts_prefix.length_le
  have hcalls := List.length_filterMap_le Act.call? x.acts
  have hsent := congrArg List.length h.sent
  have hpending : x.inside.pending.length ≤ 1 := by
    cases x.inside <;> simp [Inside.pending]
  have hreceived := h.received
  have hsteps := h.steps
  simp only [List.length_append, List.length_cons, List.length_map] at hsent
  omega

theorem replies_mono (s : Shell) (limits : Limits) (past more : List Arrival) :
    replies s limits past <+: replies s limits (past ++ more) := by
  unfold replies
  rw [arriving_append]
  exact replies_prefix _ _ _

/-- What an isolate and its host come to in the end, beside what its conduct is directly. -/
structure Completed (s : Shell) (limits : Limits) (c : Conduct) (x : Exchange) : Prop where
  acts : x.acts = (c.direct s).acts
  inside : x.inside = .gone (c.direct s).failure
  requests : (x.past.map Arrival.message).filterMap Message.request? =
    (c.direct s).calls.map Prod.fst
  served : ∀ exitCode outlives, ∃ service : Service,
    outcome (Shell.serve ⟨arriving x.past, exitCode, outlives, none⟩ limits) s =
        (.ok service, (c.direct s).shell) ∧
      service.replies.map heard = (c.direct s).calls.map Prod.snd ∧ service.unread = 0 ∧
      service.output = .ok ⟨Text.strip (c.direct s).outLines.flatten,
        Text.strip (c.direct s).errLines.flatten⟩

section

variable (habs : Path.isAbsolute s.directory = true)
  (htime : leavesNoTime limits.timeoutMs = .ok false)

include habs htime

theorem heard_replies (c : Conduct) {past : List Arrival}
    (h : past.map Arrival.message = .ready :: (c.direct s).messages) :
    (replies s limits past).map heard = (c.direct s).calls.map Prod.snd := by
  obtain ⟨given, hgiven, hserve⟩ := exists_serve_account habs htime .null c h
  rw [replies, hserve]
  exact hgiven

theorem heard_eq {n steps : Nat} {r : Request.Offered}
    {next : Except Raised Volume.Value → Conduct} {underway : List Message} {past : List Arrival}
    {acts : List Act} {v : Volume} {reply : Reply}
    (hx : Tracks s c steps ⟨.waiting r next, underway, past, n, acts⟩)
    (hv : c.direct s = ((Conduct.call r next).direct { s with volume := v }).after acts)
    (h : (replies s limits past)[n]? = some reply) :
    heard reply = (callDirectly r.toRequest { s with volume := v }).1 := by
  let done := callDirectly r.toRequest { s with volume := v }
  let later := (next done.1).direct done.2
  have hdirect : c.direct s = later.after (acts ++ [.call r.toRequest done.1]) :=
    hv.trans (Account.after_after later acts _)
  -- what has arrived is the beginning of all that a host would be sent
  let more : List Arrival := (underway ++ later.messages).map (Arrival.mk 0)
  have hall : (past ++ more).map Arrival.message = .ready :: (c.direct s).messages := by
    have hmore : more.map Arrival.message = underway ++ later.messages := by
      simp only [more, List.map_map]
      exact List.map_id _
    rw [List.map_append, hmore, ← List.append_assoc, hx.sent, hdirect]
    simp [Account.messages, Account.after, Inside.pending, Act.message]
  have hstays : (replies s limits (past ++ more))[n]? = some reply := by
    obtain ⟨others, hothers⟩ := replies_mono s limits past more
    obtain ⟨hn, -⟩ := List.getElem?_eq_some_iff.mp h
    rw [← hothers, List.getElem?_append_left hn, h]
  have hheard : ((c.direct s).calls.map Prod.snd)[n]? = some (heard reply) := by
    rw [← heard_replies habs htime c hall, List.getElem?_map, hstays]
    rfl
  have hreceived : n = (acts.filterMap Act.call?).length := hx.received
  have hresult : (c.direct s).calls[n]? = some (r.toRequest, done.1) := by
    rw [hdirect, hreceived]
    simp [Account.calls, Account.after, Act.call?]
  rw [List.getElem?_map, hresult] at hheard
  exact (Option.some.inj hheard).symm

theorem Tracks.step {n : Nat} {x y : Exchange} (hx : Tracks s c n x)
    (h : Step s limits x y) : Tracks s c (n + 1) y := by
  have ⟨hsent, hreceived, ⟨v, hv⟩, hsteps⟩ := hx
  cases h with
  | log args next underway past n acts => exact hx.sends (fun _ => rfl) rfl
  | error args next underway past n acts => exact hx.sends (fun _ => rfl) rfl
  | ask r next underway past n acts =>
    have hrest : ∀ t, (Inside.waiting r next).rest t = (Conduct.call r next).direct t := fun _ => rfl
    exact hx.asks hrest rfl
  | finish failure underway past n acts =>
    have hrest : ∀ t, (Inside.gone failure).rest t = (Conduct.ended failure).direct t := fun _ => rfl
    exact hx.asks hrest rfl
  | take inside idle m underway past n acts =>
    refine ⟨?_, hreceived, ⟨v, hv⟩, ?_⟩
    · rw [← hsent]
      simp
    · simp only [List.length_append, List.length_singleton] at hsteps ⊢
      omega
  | hear r next underway past n acts reply given =>
    have hheard := heard_eq habs htime ⟨hsent, hreceived, ⟨v, hv⟩, hsteps⟩ hv given
    -- what is still to be done starts from the volume that the call leaves
    refine ⟨?_, ?_, ⟨(callDirectly r.toRequest { s with volume := v }).2.volume, ?_⟩, ?_⟩
    · rw [hsent]
      simp [Inside.pending, Act.message]
    · simpa [Act.call?] using hreceived
    · have hshell : (callDirectly r.toRequest { s with volume := v }).2 =
          { s with volume := (callDirectly r.toRequest { s with volume := v }).2.volume } :=
        callDirectly_shell r.toRequest _
      rw [hv, hheard, ← hshell]
      exact Account.after_after _ acts _
    · simp only [Inside.pending, List.length_append, List.length_nil, List.length_singleton]
        at hsteps ⊢
      omega

theorem Reaches.tracks {n : Nat} {x : Exchange} (h : Reaches s limits c n x) :
    Tracks s c.enclosed n x := by
  induction h with
  | start => exact tracks_start s c
  | step _ h ih => exact ih.step habs htime h

theorem exists_settled {n : Nat} {x : Exchange} (h : Reaches s limits c n x) :
    ∃ m y, Reaches s limits c m y ∧ Settled s limits y := by
  -- by induction on the number of steps that are left
  induction hk : 3 * (c.enclosed.direct s).acts.length + 3 - n generalizing n x with
  | zero =>
    refine ⟨n, x, h, fun y hy => ?_⟩
    have hle := ((h.step hy).tracks habs htime).steps_le
    omega
  | succ k ih =>
    by_cases hx : Settled s limits x
    · exact ⟨n, x, h, hx⟩
    · obtain ⟨y, hy⟩ := not_forall_not.mp hx
      exact ih (h.step hy) (by omega)

theorem length_replies_waiting {past : List Arrival} {acts : List Act} {r : Request}
    (h : past.map Arrival.message = .ready :: acts.map Act.message ++ [.request r]) :
    (replies s limits past).length = (acts.filterMap Act.call?).length + 1 := by
  have hopen : ∀ a ∈ past, a.message.IsOpen := by
    intro a ha
    have hmem := h ▸ List.mem_map_of_mem ha
    simp only [List.cons_append, List.mem_cons, List.mem_append, List.mem_map,
      List.not_mem_nil, or_false] at hmem
    rcases hmem with hready | ⟨act, -, hact⟩ | hrequest
    · simp [hready, Message.IsOpen]
    · exact hact ▸ act.isOpen_message
    · simp [hrequest, Message.IsOpen]
  rw [replies, length_replies habs htime hopen, h, requests_sent, List.length_append,
    List.length_map]
  rfl

theorem Tracks.gone {n : Nat} {x : Exchange} (hx : Tracks s c n x)
    (hsettled : Settled s limits x) :
    x.underway = [] ∧ ∃ failure, x.inside = .gone failure := by
  obtain ⟨inside, underway, past, received, acts⟩ := x
  cases underway with
  | cons m underway => exact absurd (.take inside 0 m underway past received acts) (hsettled _)
  | nil =>
    refine ⟨rfl, ?_⟩
    cases inside with
    | gone failure => exact ⟨failure, rfl⟩
    | acting c =>
      cases c with
      | ended failure => exact absurd (.finish failure [] past received acts) (hsettled _)
      | log args next => exact absurd (.log args next [] past received acts) (hsettled _)
      | error args next => exact absurd (.error args next [] past received acts) (hsettled _)
      | call r next => exact absurd (.ask r next [] past received acts) (hsettled _)
    | waiting r next =>
      have hsent : past.map Arrival.message =
          .ready :: acts.map Act.message ++ [.request r.toRequest] :=
        (List.append_nil _).symm.trans hx.sent
      have hlength := length_replies_waiting habs htime hsent
      have hreceived : received = (acts.filterMap Act.call?).length := hx.received
      have hlt : received < (replies s limits past).length := by omega
      exact absurd (.hear r next [] past received acts _ (List.getElem?_eq_getElem hlt))
        (hsettled _)

theorem Tracks.completed {n : Nat} {x : Exchange} (hx : Tracks s c n x)
    (hsettled : Settled s limits x) : Completed s limits c x := by
  obtain ⟨hunderway, failure, hinside⟩ := hx.gone habs htime hsettled
  obtain ⟨v, hv⟩ := hx.forecast
  have hacts : x.acts = (c.direct s).acts := by
    rw [hv, hinside]
    exact (List.append_nil _).symm
  have hfailure : (c.direct s).failure = failure := by
    rw [hv, hinside]
    rfl
  have hsent := hx.sent
  rw [hunderway, List.append_nil, hacts, hinside, ← hfailure] at hsent
  refine ⟨hacts, hfailure ▸ hinside, ?_, fun exitCode outlives => ?_⟩
  · have hending : (Inside.gone (c.direct s).failure).pending.filterMap Message.request? = [] := by
      cases (c.direct s).failure <;> rfl
    rw [hsent, requests_sent, hending, List.append_nil, Account.calls]
  · obtain ⟨replies, hreplies, hserve⟩ := exists_serve_account habs htime exitCode c hsent
    refine ⟨.told (c.direct s) replies, ?_, hreplies, rfl, Service.output_told _ _⟩
    rw [outcome_serve]
    simp only [hserve]
    rw [← Conduct.direct_shell]

end

/-- The directory of a shell is absolute from its start on, and let the limit leave some time. Whatever
code in an isolate does, it and its host come to an end. At any time it has done what it would do with
calls on the shell itself, each call having come to what it comes to there, and at most one message
tells of more than that. In the end it has done all of it, every request has had its reply, and the
shell, the standard output and the standard error are what they are then. Only a call with something
that cannot leave the isolate is never made: it fails inside, and code that has no such call does just
what it does outside. The scripts of an isolate are such code: running one sends just these messages
and leaves just this volume. -/
theorem calls_through_pipe_are_direct (habs : Path.isAbsolute s.directory = true)
    (htime : leavesNoTime limits.timeoutMs = .ok false) :
    (∀ c : Conduct, (c.Crosses → c.enclosed = c) ∧
      (∃ n x, Reaches s limits c n x ∧ Settled s limits x) ∧
        ∀ n x, Reaches s limits c n x →
          n ≤ 3 * (c.enclosed.direct s).acts.length + 3 ∧ x.acts <+: (c.enclosed.direct s).acts ∧
          x.past.map Arrival.message ++ x.underway =
            .ready :: x.acts.map Act.message ++ x.inside.pending ∧
          (Settled s limits x → Completed s limits c.enclosed x)) ∧
    ∀ (w : Surroundings) (script : List Instruction), w.directory = s.directory →
      ∃ c : Conduct, c.Crosses ∧ ∀ t : Shell, t.directory = w.directory → t.clock = w.now →
        (run w script).run t.volume =
          (⟨.ready :: (c.direct t).messages, 1, true⟩, (c.direct t).shell.volume) := by
  refine ⟨fun c => ⟨fun h => h.enclosed_eq, exists_settled habs htime .start, fun n x hx => ?_⟩,
    fun w script hdirectory => exists_conduct (hdirectory ▸ habs) script⟩
  have htracks := hx.tracks habs htime
  exact ⟨htracks.steps_le, htracks.acts_prefix, htracks.sent, htracks.completed habs htime⟩

def bareShell : Shell :=
  ⟨⟨.null, [slash], .null, [], .usual⟩, [slash], .empty 0, .empty, [], [], .empty, 0, 0, []⟩

def writesGenerator : Conduct :=
  let generator : Foreign := ⟨"generator", "<generator object>", true, .ok [104, 105],
    some ⟨"TypeError", "cannot pickle 'generator' object"⟩⟩
  .call ⟨⟨"write_file", [.value (.ofString "k"), .foreign generator]⟩, by decide⟩ fun
    | .ok _ => .ended none
    | .error e => .ended (some (.failure e.label e.text))

/-- A generator cannot leave an isolate: what is written directly is not asked for through the pipe, and
the failure that is not caught stands in the standard error. -/
theorem generator_written_only_directly :
    let k : Name := ⟨Text.ofString "k", by decide⟩
    (writesGenerator.direct bareShell).shell.volume.root.entry [k] =
        some (.file 0o666 [104, 105]) ∧
      ∃ n x service t, Reaches bareShell .usual writesGenerator n x ∧ Settled bareShell .usual x ∧
        outcome (Shell.serve ⟨arriving x.past, .null, false, none⟩ .usual) bareShell =
          (.ok service, t) ∧
        t.volume.root.entry [k] = none ∧ service.replies = [] ∧
        service.output = .ok ⟨"", "TypeError: cannot pickle 'generator' object"⟩ := by
  intro k
  have habs : Path.isAbsolute bareShell.directory = true := rfl
  have htime : leavesNoTime Limits.usual.timeoutMs = .ok false :=
    leavesNoTime_of_pos (by decide) (by decide +kernel)
  obtain ⟨n, x, hx, hsettled⟩ :=
    exists_settled habs htime (.start : Reaches bareShell .usual writesGenerator 0 _)
  obtain ⟨service, hserve, hheard, -, houtput⟩ :=
    ((hx.tracks habs htime).completed habs htime hsettled).served .null false
  have hnone : service.replies = [] := List.map_eq_nil_iff.mp hheard
  refine ⟨rfl, n, x, service, _, hx, hsettled, hserve, rfl, hnone, houtput.trans ?_⟩
  rfl

def missesFile : Conduct :=
  .call ⟨⟨"write_file", [.value (.ofString "k"), .octets [1]]⟩, by decide⟩ fun _ =>
    .call ⟨⟨"read_file", [.value (.ofString "m")]⟩, by decide⟩ fun
      | .ok _ => .ended none
      | .error e => .error [.ofString e.label] (.log [.ofString "x", .integer 1] (.ended none))

theorem calls_through_pipe_are_direct_missed_file :
    let k : Name := ⟨Text.ofString "k", by decide⟩
    Path.isAbsolute bareShell.directory = true ∧
      leavesNoTime Limits.usual.timeoutMs = .ok false ∧
      ∃ n x service t, Reaches bareShell .usual missesFile n x ∧ Settled bareShell .usual x ∧
        outcome (Shell.serve ⟨arriving x.past, .null, false, none⟩ .usual) bareShell =
          (.ok service, t) ∧
        t.volume.root.entry [k] = some (.file 0o666 [1]) ∧ service.replies.length = 2 ∧
        service.output = .ok ⟨"x 1", "FileNotFoundError"⟩ := by
  intro k
  have habs : Path.isAbsolute bareShell.directory = true := rfl
  have htime : leavesNoTime Limits.usual.timeoutMs = .ok false :=
    leavesNoTime_of_pos (by decide) (by decide +kernel)
  have hcalls : (missesFile.direct bareShell).calls.length = 2 := rfl
  have hfile : (missesFile.direct bareShell).shell.volume.root.entry [k] =
      some (.file 0o666 [1]) := rfl
  have hout : (missesFile.direct bareShell).outLines = ["x 1\n"] := rfl
  have herr : (missesFile.direct bareShell).errLines = ["FileNotFoundError\n"] := rfl
  obtain ⟨hconducts, -⟩ := calls_through_pipe_are_direct habs htime
  obtain ⟨hcrosses, ⟨n, x, hx, hsettled⟩, hall⟩ := hconducts missesFile
  obtain ⟨-, -, -, hcompleted⟩ := hall n x hx
  have hself : missesFile.enclosed = missesFile :=
    hcrosses ⟨rfl, fun _ => ⟨rfl, fun result => by cases result <;> trivial⟩⟩
  rw [hself] at hcompleted
  obtain ⟨service, hserve, hheard, -, houtput⟩ := (hcompleted hsettled).served .null false
  have hlength : service.replies.length = 2 := by
    have h := congrArg List.length hheard
    rwa [List.length_map, List.length_map, hcalls] at h
  refine ⟨habs, htime, n, x, service, _, hx, hsettled, hserve, hfile, hlength, ?_⟩
  rw [houtput, hout, herr]
  rfl

end Exchange

end MemoryShell.Isolate
