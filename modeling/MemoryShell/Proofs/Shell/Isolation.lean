import MemoryShell.Proofs.Isolate.Ending

/-!
Running a function in an isolate, as its shell sees it. What is refused leaves the shell as it is. What
runs changes the volume by the requests that are answered, and nothing else but the record of what was
done; it is over with the first last word, and it gives back what was written until then, unless a
failure comes out of it, as it does where a reply cannot be sent any more.
-/

set_option autoImplicit false

namespace MemoryShell.Shell

open Isolate

theorem outcome_launch (call : IsolateCall) (limits : Limits) (s : Shell) :
    outcome (launch call limits) s = ((outcome (launch call limits) s).1, s) := by
  unfold launch
  cases Source.Function.ofOrigin Source.Function.room call.origin with
  | error e => rfl
  | ok function => cases call.params.render <;> rfl

def afterService (s : Shell) (v : Volume) (report : Report) : Shell :=
  { s with volume := v, trace := s.trace ++ [.isolated report] }

theorem outcome_runIsolate_of_error {call : IsolateCall} {limits : Limits} {s : Shell} {f : Failure}
    (h : (outcome (launch call limits) s).1 = .error f) :
    outcome (runIsolate call limits) s = (.error f, s) := by
  have hlaunch := outcome_launch call limits s
  rw [h] at hlaunch
  exact outcome_bind_error hlaunch _

theorem outcome_runIsolate_of_refusal {call : IsolateCall} {limits : Limits} {s : Shell}
    {start : Launch} {e : StartError} (h : (outcome (launch call limits) s).1 = .ok start)
    (hrefusal : call.process.refusal = some e) :
    outcome (runIsolate call limits) s =
      (.error e.failure, afterService s s.volume (.unstarted start call.process e)) := by
  have hlaunch := outcome_launch call limits s
  rw [h] at hlaunch
  rw [runIsolate, outcome_bind_ok hlaunch, hrefusal]
  rfl

theorem outcome_runIsolate_of_started {call : IsolateCall} {limits : Limits} {s : Shell}
    {start : Launch} {service : Service} {v : Volume}
    (h : (outcome (launch call limits) s).1 = .ok start) (hstarted : call.process.refusal = none)
    (hserve : (Isolate.serve s.directory s.clock limits.timeoutMs call.process.exitCode false
      call.process.events).run s.volume = (service, v)) :
    outcome (runIsolate call limits) s =
      (service.output, afterService s v (.served start call.process service)) := by
  let counting : Shell := { s with activeIsolates := s.activeIsolates + 1 }
  let served : Shell := { counting with volume := v }
  let recorded : Shell := afterService served v (.served start call.process service)
  have hlaunch : outcome (launch call limits) s = (.ok start, s) := by
    rw [outcome_launch, h]
  have hcount : outcome (countIsolate 1) s = (.ok ⟨⟩, counting) := outcome_modify _ _
  have hcounting : outcome (serve call.process limits) counting = (.ok service, served) := by
    have hrun : (Isolate.serve counting.directory counting.clock limits.timeoutMs
        call.process.exitCode false call.process.events).run counting.volume = (service, v) := hserve
    rw [outcome_serve, hrun]
  have hrecord : outcome (record (.isolated (.served start call.process service))) served =
      (.ok ⟨⟩, recorded) := outcome_modify _ _
  have huncount : outcome (countIsolate (-1)) recorded =
      (.ok ⟨⟩, afterService s v (.served start call.process service)) := by
    have hactive : s.activeIsolates + 1 + -1 = s.activeIsolates := by omega
    refine (outcome_modify _ _).trans ?_
    simp only [recorded, served, counting, afterService, hactive]
  rw [runIsolate, outcome_bind_ok hlaunch, hstarted]
  simp only
  rw [outcome_bind_ok hcount, outcome_bind_ok hcounting, outcome_bind_ok hrecord,
    outcome_bind_ok huncount]
  cases service.output <;> rfl

theorem activeIsolates_runIsolate (call : IsolateCall) (limits : Limits) (s : Shell) :
    (outcome (runIsolate call limits) s).2.activeIsolates = s.activeIsolates := by
  cases hlaunch : (outcome (launch call limits) s).1 with
  | error f => rw [outcome_runIsolate_of_error hlaunch]
  | ok start =>
    cases hrefusal : call.process.refusal with
    | some e =>
      rw [outcome_runIsolate_of_refusal hlaunch hrefusal]
      rfl
    | none =>
      rw [outcome_runIsolate_of_started hlaunch hrefusal rfl]
      rfl

theorem outcome_runIsolate_of_agreeing {call : IsolateCall} {limits : Limits} {s : Shell}
    {events : List Event}
    (h : Agreeing
      ((Isolate.serve s.directory s.clock limits.timeoutMs call.process.exitCode false events).run
        s.volume)
      ((Isolate.serve s.directory s.clock limits.timeoutMs call.process.exitCode false
        call.process.events).run s.volume)) :
    let other : IsolateCall := { call with process := { call.process with events } }
    (outcome (runIsolate other limits) s).1 = (outcome (runIsolate call limits) s).1 ∧
      (outcome (runIsolate other limits) s).2.volume =
        (outcome (runIsolate call limits) s).2.volume := by
  intro other
  have hlaunch : launch other limits = launch call limits := rfl
  cases hstart : (outcome (launch call limits) s).1 with
  | error f =>
    rw [outcome_runIsolate_of_error hstart, outcome_runIsolate_of_error (hlaunch ▸ hstart)]
    exact ⟨rfl, rfl⟩
  | ok start =>
    have hother : (outcome (launch other limits) s).1 = .ok start := hlaunch ▸ hstart
    cases hrefusal : call.process.refusal with
    | some e =>
      rw [outcome_runIsolate_of_refusal hstart hrefusal,
        outcome_runIsolate_of_refusal hother hrefusal]
      exact ⟨rfl, rfl⟩
    | none =>
      obtain ⟨hservice, hvolume⟩ := h
      rw [outcome_runIsolate_of_started hstart hrefusal rfl,
        outcome_runIsolate_of_started hother hrefusal rfl]
      exact ⟨output_eq_of_regardless hservice, hvolume⟩

/-- The directory of a shell is absolute from its start on. However a run ends, as many isolates are
active as before, and what is refused before there is a process leaves the shell as it is. Let messages
arrive that have all their parts, with nothing between them or for a while, and then no more, and let
the limit leave some time if there is a sign of readiness before the first last word. Then what is given
back is what was written before that word, with the failure that it tells of, or with the exit if there
is no such word; the requests before it, and no others, are answered, each once and in order. What
arrives besides that comes to the same: messages after the first last word, messages of an unknown
kind and repeated signs of readiness make no difference. But if before any last word the process has let
go of its end of the pipe when a reply is due, or sends a request whose arguments are no sequence, or
something that cannot be received, that failure comes out of the run; what was asked before it has been
done, and so has what was asked by the request whose reply is due. -/
theorem run_ends_with_last_word {s : Shell} (habs : Path.isAbsolute s.directory = true)
    (call : IsolateCall) (limits : Limits) :
    (outcome (runIsolate call limits) s).2.activeIsolates = s.activeIsolates ∧
    (∀ f, (outcome (launch call limits) s).1 = .error f →
      outcome (runIsolate call limits) s = (.error f, s)) ∧
    (∀ sent closing, call.process.events = arriving sent ++ closing → Exhausted closing →
      (∀ a ∈ sent, a.message.IsSound) →
      (.ready ∈ beforeLast (sent.map Arrival.message) →
        leavesNoTime limits.timeoutMs = .ok false) →
      let before := beforeLast (sent.map Arrival.message)
      let last := lastContents call.process.exitCode (fromLast (sent.map Arrival.message))
      let answered := answerAll s (requestsAt s.clock before)
      let output : Output := ⟨joined (before.filterMap Message.out?),
        joined (before.filterMap Message.err? ++ last)⟩
      ∃ service : Service, outcome (serve call.process limits) s = (.ok service, answered.2) ∧
        service.output = .ok output ∧ answered.1 = service.replies.map .ok ∧
        service.replies.length = (before.filterMap Message.request?).length ∧
        ∀ start, (outcome (launch call limits) s).1 = .ok start → call.process.refusal = none →
          outcome (runIsolate call limits) s = (.ok output,
            afterService s answered.2.volume (.served start call.process service))) ∧
    (∀ sent event rest f, call.process.events = arriving sent ++ event :: rest →
      event.interrupts? = some f →
      (∀ a ∈ sent, a.message.IsSound) → (∀ a ∈ sent, a.message.isLast = false) →
      (.ready ∈ sent.map Arrival.message → leavesNoTime limits.timeoutMs = .ok false) →
      let before := sent.map Arrival.message
      let answered := answerAll s (requestsAt s.clock before)
      let carried := answerAll s (requestsAt s.clock (before ++ event.orphans))
      ∃ service : Service, outcome (serve call.process limits) s = (.ok service, carried.2) ∧
        service.failure = some f ∧ answered.1 = service.replies.map .ok ∧
        ∀ start, (outcome (launch call limits) s).1 = .ok start → call.process.refusal = none →
          outcome (runIsolate call limits) s = (.error f,
            afterService s carried.2.volume (.served start call.process service))) ∧
    ∀ events, essence false events = essence false call.process.events →
      let other : IsolateCall := { call with process := { call.process with events } }
      (∃ first second t, outcome (serve call.process limits) s = (.ok first, t) ∧
        outcome (serve other.process limits) s = (.ok second, t) ∧
        second.regardless = first.regardless) ∧
      (outcome (runIsolate other limits) s).1 = (outcome (runIsolate call limits) s).1 ∧
      (outcome (runIsolate other limits) s).2.volume =
        (outcome (runIsolate call limits) s).2.volume := by
  refine ⟨activeIsolates_runIsolate call limits s, fun f => outcome_runIsolate_of_error, ?_, ?_, ?_⟩
  · intro sent closing hevents hclosing hsound htime before last answered output
    obtain ⟨replies, unread, hreplies, hserve⟩ :=
      exists_serve_sent call.process.exitCode habs hsound htime hclosing
    rw [← hevents] at hserve
    let service : Service :=
      ⟨before.filterMap Message.out?, before.filterMap Message.err? ++ last, replies, unread, none⟩
    have hanswered : { s with volume := answered.2.volume } = answered.2 :=
      (answerAll_requestsAt s before).symm
    have houtput : service.output = .ok output := output_of_sound hsound _ replies unread
    refine ⟨service, ?_, houtput, hreplies, ?_, ?_⟩
    · rw [outcome_serve, hserve]
      exact congrArg (Prod.mk (Except.ok service)) hanswered
    · obtain ⟨others, hothers, hlength, -⟩ := exists_replies habs (requestsAt s.clock before)
      have hsame : replies.length = others.length := by
        simpa using congrArg List.length (hreplies.symm.trans hothers)
      rw [hsame, hlength, requestsAt, List.length_map]
    · intro start hstart hstarted
      rw [outcome_runIsolate_of_started hstart hstarted hserve, ← houtput]
  · intro sent event rest f hevents hinterrupts hsound hgoes htime before answered carried
    have hopen : ∀ a ∈ sent, a.message.IsOpen :=
      fun a ha => Message.isOpen_of_isSound (hsound a ha) (hgoes a ha)
    obtain ⟨replies, hreplies, hserve⟩ := exists_serve_interrupted call.process.exitCode false habs
      hopen (fun hready => .inr (htime hready)) hinterrupts rest
    rw [← hevents] at hserve
    have hcarried : { s with volume := carried.2.volume } = carried.2 :=
      (answerAll_requestsAt s (before ++ event.orphans)).symm
    let service : Service := ⟨before.filterMap Message.out?, before.filterMap Message.err?, replies,
      rest.length, some f⟩
    refine ⟨service, ?_, rfl, hreplies, fun start hstart hstarted => ?_⟩
    · rw [outcome_serve, hserve]
      exact congrArg (Prod.mk (Except.ok service)) hcarried
    · rw [outcome_runIsolate_of_started hstart hstarted hserve]
      rfl
  · intro events hessence other
    obtain ⟨hservice, hvolume⟩ := agreeing_of_essence_eq s.directory s.clock limits.timeoutMs
      call.process.exitCode hessence s.volume
    refine ⟨⟨_, _, _, outcome_serve call.process limits s, ?_, hservice⟩, ?_⟩
    · rw [outcome_serve, ← hvolume]
    · exact outcome_runIsolate_of_agreeing ⟨hservice, hvolume⟩

/-- A script fails between two writes, and goes on sending. And a process that has let go of its end when
the reply to its write is due: the file is written, and the failure of the pipe comes out. -/
theorem run_ends_with_last_word_failed_script :
    let k : Name := ⟨Text.ofString "k", by decide⟩
    let m : Name := ⟨Text.ofString "m", by decide⟩
    let write (name : String) : Message :=
      .request ⟨"write_file", [.value (.ofString name), .octets [1]]⟩
    let sent : List Arrival := [⟨0, .ready⟩, ⟨2, .out (.ofString "a ")⟩, ⟨0, .unknown⟩, ⟨1, write "k"⟩,
      ⟨0, .ready⟩, ⟨0, .err (.ofString "e")⟩, ⟨0, .failed (.ofString " boom\n")⟩, ⟨0, write "m"⟩,
      ⟨0, .out (.ofString "late")⟩]
    let process : Isolate.Process := ⟨arriving sent ++ [.ended], .integer 1, true, none⟩
    let broken : Isolate.Process := ⟨arriving [⟨0, .ready⟩] ++
      [.orphaned ⟨"write_file", [.value (.ofString "k"), .octets [1]]⟩, .ended], .integer 0, false, none⟩
    ∃ s service t, build 0 .usual builtins = .ok s ∧ Path.isAbsolute s.directory = true ∧
      outcome (serve process .usual) s = (.ok service, t) ∧
      service.output = .ok ⟨"a", "e boom"⟩ ∧ service.replies.length = 1 ∧
      t.volume.root.entry [k] = some (.file 0o666 [1]) ∧ t.volume.root.entry [m] = none ∧
      ∃ service t, outcome (serve broken .usual) s = (.ok service, t) ∧
        service.failure = some .brokenPipe ∧ t.volume.root.entry [k] = some (.file 0o666 [1]) := by
  intro k m write sent process broken
  obtain ⟨s, hs⟩ : ∃ s, build 0 .usual builtins = .ok s := ⟨_, rfl⟩
  have habs : Path.isAbsolute s.directory = true := Except.ok.inj hs ▸ rfl
  have hsound : ∀ a ∈ sent, a.message.IsSound := by
    simp [sent, write, Message.IsSound, Json.ofString]
  have htime : leavesNoTime Limits.usual.timeoutMs = .ok false :=
    leavesNoTime_of_pos (by decide) (by decide +kernel)
  have hout : joined ((beforeLast (sent.map Arrival.message)).filterMap Message.out?) = "a" := by
    decide +kernel
  have herr : joined ((beforeLast (sent.map Arrival.message)).filterMap Message.err? ++
      lastContents (.integer 1) (fromLast (sent.map Arrival.message))) = "e boom" := by
    decide +kernel
  have hrequests : ((beforeLast (sent.map Arrival.message)).filterMap Message.request?).length = 1 :=
    rfl
  let call : IsolateCall :=
    ⟨.draft [.function "f" [.pass] []], .value .null, none, none, process⟩
  obtain ⟨-, -, hrun, -, -⟩ := run_ends_with_last_word habs call .usual
  obtain ⟨service, hserve, houtput, -, hlength, -⟩ :=
    hrun sent [.ended] rfl (.inr ⟨[], rfl⟩) hsound fun _ => htime
  rw [hout, herr] at houtput
  let brokenCall : IsolateCall := { call with process := broken }
  obtain ⟨-, -, -, hinterrupted, -⟩ := run_ends_with_last_word habs brokenCall .usual
  obtain ⟨brokenService, hbroken, hfailure, -⟩ := hinterrupted [⟨0, .ready⟩] _ _ _ rfl rfl
    (by simp [Message.IsSound]) (by simp [Message.isLast]) fun _ => htime
  refine ⟨s, service, _, hs, habs, hserve, houtput, hlength.trans hrequests, ?_⟩
  obtain rfl := Except.ok.inj hs
  exact ⟨rfl, rfl, brokenService, _, hbroken, hfailure, rfl⟩

end MemoryShell.Shell
