import MemoryShell.Proofs.Isolate.Service
import MemoryShell.Proofs.Shell.Requests

set_option autoImplicit false

namespace MemoryShell.Isolate

def Message.out? : Message → Option Json
  | .out content => some content
  | _ => none

def Message.err? : Message → Option Json
  | .err content => some content
  | _ => none

def Message.isLast : Message → Bool
  | .done | .failed _ => true
  | _ => false

def Message.IsSound : Message → Prop
  | .out content | .err content | .failed content => ∃ t, content = .string t
  | .misfit _ => False
  | .ready | .request _ | .done | .unknown => True

theorem Message.isOpen_of_isSound {m : Message} (hsound : m.IsSound) (hlast : m.isLast = false) :
    m.IsOpen := by
  refine ⟨?_, fun content => ?_, ?_⟩
  · rintro rfl
    cases hlast
  · rintro rfl
    cases hlast
  · rintro f rfl
    exact hsound

theorem Message.IsSound.out {m : Message} {content : Json} (hsound : m.IsSound)
    (h : m.out? = some content) : ∃ t, content = .string t := by
  cases m with
  | out c =>
    obtain rfl := Option.some.inj h
    exact hsound
  | _ => cases h

theorem Message.IsSound.err {m : Message} {content : Json} (hsound : m.IsSound)
    (h : m.err? = some content) : ∃ t, content = .string t := by
  cases m with
  | err c =>
    obtain rfl := Option.some.inj h
    exact hsound
  | _ => cases h

def beforeLast (sent : List Message) : List Message :=
  sent.takeWhile fun m => !m.isLast

def fromLast (sent : List Message) : List Message :=
  sent.dropWhile fun m => !m.isLast

def lastContents (exitCode : Json) : List Message → List Json
  | [] => [.string (exitMessage exitCode)]
  | .failed content :: _ => [content]
  | _ :: _ => []

theorem exists_string_of_mem_last {sent : List Message} (hsound : ∀ m ∈ sent, m.IsSound)
    {exitCode content : Json} (h : content ∈ lastContents exitCode sent) :
    ∃ t, content = .string t := by
  cases sent with
  | nil => exact ⟨_, List.mem_singleton.mp h⟩
  | cons m sent =>
    cases m with
    | failed c =>
      obtain rfl := List.mem_singleton.mp h
      exact hsound _ List.mem_cons_self
    | _ => cases h

/-- Nothing more arrives. -/
def Exhausted (events : List Event) : Prop :=
  events = [] ∨ ∃ rest, events = .ended :: rest

def Event.interrupts? : Event → Option Failure
  | .orphaned _ => some .brokenPipe
  | .message (.misfit f) => some (.fault f)
  | .unreceived f => some f
  | .message _ | .idle | .ended => none

def Event.orphans : Event → List Message
  | .orphaned r => [.request r]
  | .message _ | .idle | .ended | .unreceived _ => []

def requestsAt (now : Int) (sent : List Message) : List (Int × Request) :=
  (sent.filterMap Message.request?).map fun r => (now, r)

theorem requestsAt_append (now : Int) (sent more : List Message) :
    requestsAt now (sent ++ more) = requestsAt now sent ++ requestsAt now more := by
  rw [requestsAt, List.filterMap_append, List.map_append]
  rfl

theorem requestsAt_request (now : Int) (r : Request) (sent : List Message) :
    requestsAt now (.request r :: sent) = (now, r) :: requestsAt now sent := rfl

def joined (contents : List Json) : Text :=
  Text.strip (contents.filterMap Json.text?).flatten

theorem texts_of_strings (index : Nat) {contents : List Json}
    (h : ∀ c ∈ contents, ∃ t, c = .string t) :
    Demand.texts index contents = .ok (contents.filterMap Json.text?) := by
  induction contents generalizing index with
  | nil => rfl
  | cons first rest ih =>
    obtain ⟨⟨t, rfl⟩, hrest⟩ := List.forall_mem_cons.mp h
    rw [Demand.texts, ih _ hrest]
    rfl

theorem written_of_strings {contents : List Json} (h : ∀ c ∈ contents, ∃ t, c = .string t) :
    written contents = .ok (joined contents) := by
  rw [written, texts_of_strings 0 h]
  rfl

def Service.after (s : Service) (out err : List Json) (replies : List Reply) : Service :=
  { s with out := out ++ s.out, err := err ++ s.err, replies := replies ++ s.replies }

section

variable {timeoutMs exitCode : Json} {wasReady : Bool}

theorem answerAll_of_answer {s : Shell} {r : Request} {reply : Reply} {w : Volume}
    (h : outcome (r.answer s.directory s.clock) s.volume = (.ok reply, w))
    (others : List (Int × Request)) :
    Shell.answerAll s ((s.clock, r) :: others) =
      let later := Shell.answerAll { s with volume := w } others
      (.ok reply :: later.1, later.2) := by
  have hfirst : outcome (Shell.answer r) { s with clock := s.clock } =
      (.ok reply, { s with volume := w }) := by
    rw [Shell.outcome_answer_eq, h]
    rfl
  rw [Shell.answerAll, hfirst]

theorem answerAll_requestsAt (s : Shell) (sent : List Message) :
    let answered := Shell.answerAll s (requestsAt s.clock sent)
    answered.2 = { s with volume := answered.2.volume } := by
  unfold requestsAt
  generalize sent.filterMap Message.request? = requests
  induction requests generalizing s with
  | nil => rfl
  | cons r requests ih =>
    have hfirst := Shell.outcome_answer_eq r { s with clock := s.clock }
    rw [List.map_cons, Shell.answerAll, hfirst]
    exact ih { s with volume := (outcome (r.answer s.directory s.clock) s.volume).2 }

theorem exists_serve_open (exitCode : Json) (wasReady : Bool) {s : Shell}
    (habs : Path.isAbsolute s.directory = true)
    {past : List Arrival} (hopen : ∀ a ∈ past, a.message.IsOpen)
    (htime : .ready ∈ past.map Arrival.message →
      wasReady = true ∨ leavesNoTime timeoutMs = .ok false)
    (rest : List Event) :
    let sent := past.map Arrival.message
    let answered := Shell.answerAll s (requestsAt s.clock sent)
    ∃ isReady replies, answered.1 = replies.map .ok ∧
      (serve s.directory s.clock timeoutMs exitCode wasReady (arriving past ++ rest)).run s.volume =
        let later :=
          (serve s.directory s.clock timeoutMs exitCode isReady rest).run answered.2.volume
        (later.1.after (sent.filterMap Message.out?) (sent.filterMap Message.err?) replies,
          later.2) := by
  induction past generalizing s wasReady with
  | nil => exact ⟨wasReady, [], rfl, rfl⟩
  | cons a past ih =>
    obtain ⟨idle, m⟩ := a
    obtain ⟨hm, hpast⟩ := List.forall_mem_cons.mp hopen
    have hlater : .ready ∈ past.map Arrival.message →
        wasReady = true ∨ leavesNoTime timeoutMs = .ok false :=
      fun hready => htime (List.mem_cons_of_mem _ hready)
    rw [arriving, List.flatMap_cons, List.append_assoc, serve_arrival]
    cases m with
    | ready =>
      obtain ⟨isReady, replies, hreplies, hserve⟩ :=
        ih true habs hpast fun _ => .inl rfl
      refine ⟨isReady, replies, hreplies, ?_⟩
      cases wasReady with
      | true =>
        rw [serve]
        exact hserve
      | false =>
        have hleft : leavesNoTime timeoutMs = .ok false :=
          (htime List.mem_cons_self).resolve_left Bool.false_ne_true
        rw [serve, hleft]
        exact hserve
    | out content =>
      obtain ⟨isReady, replies, hreplies, hserve⟩ := ih wasReady habs hpast hlater
      refine ⟨isReady, replies, hreplies, ?_⟩
      rw [serve_out, ← arriving, hserve]
      rfl
    | err content =>
      obtain ⟨isReady, replies, hreplies, hserve⟩ := ih wasReady habs hpast hlater
      refine ⟨isReady, replies, hreplies, ?_⟩
      rw [serve_err, ← arriving, hserve]
      rfl
    | request r =>
      obtain ⟨reply, w, hanswer, -⟩ := r.exists_outcome_answer habs s.clock s.volume
      obtain ⟨isReady, replies, hreplies, hserve⟩ :=
        ih wasReady (s := { s with volume := w }) habs hpast hlater
      have hanswered := answerAll_of_answer hanswer (requestsAt s.clock (past.map Arrival.message))
      refine ⟨isReady, reply :: replies, ?_, ?_⟩
      · rw [List.map_cons, requestsAt_request, hanswered]
        exact congrArg (.ok reply :: ·) hreplies
      · rw [serve_request hanswer, ← arriving, hserve, List.map_cons, requestsAt_request, hanswered]
        rfl
    | unknown =>
      obtain ⟨isReady, replies, hreplies, hserve⟩ := ih wasReady habs hpast hlater
      refine ⟨isReady, replies, hreplies, ?_⟩
      rw [serve]
      exact hserve
    | done => exact absurd rfl hm.1
    | failed content => exact absurd rfl (hm.2.1 content)
    | misfit f => exact absurd rfl (hm.2.2 f)

theorem exists_serve_interrupted (exitCode : Json) (wasReady : Bool) {s : Shell}
    (habs : Path.isAbsolute s.directory = true)
    {past : List Arrival} (hopen : ∀ a ∈ past, a.message.IsOpen)
    (htime : .ready ∈ past.map Arrival.message →
      wasReady = true ∨ leavesNoTime timeoutMs = .ok false)
    {event : Event} {f : Failure} (h : event.interrupts? = some f) (rest : List Event) :
    let sent := past.map Arrival.message
    let answered := Shell.answerAll s (requestsAt s.clock sent)
    let carried := Shell.answerAll s (requestsAt s.clock (sent ++ event.orphans))
    ∃ replies, answered.1 = replies.map .ok ∧
      (serve s.directory s.clock timeoutMs exitCode wasReady (arriving past ++ event :: rest)).run
          s.volume =
        (⟨sent.filterMap Message.out?, sent.filterMap Message.err?, replies, rest.length, some f⟩,
          carried.2.volume) := by
  intro sent answered carried
  obtain ⟨isReady, replies, hreplies, hserve⟩ :=
    exists_serve_open exitCode wasReady habs hopen htime (event :: rest)
  have hshell : answered.2 = { s with volume := answered.2.volume } := answerAll_requestsAt s sent
  have hcarried : carried.2 = (Shell.answerAll answered.2 (requestsAt s.clock event.orphans)).2 := by
    rw [show carried = _ from congrArg _ (requestsAt_append _ _ _), Shell.answerAll_append]
  rw [hcarried]
  suffices hlast : (serve s.directory s.clock timeoutMs exitCode isReady (event :: rest)).run
      answered.2.volume = (.failing f rest.length,
        (Shell.answerAll answered.2 (requestsAt s.clock event.orphans)).2.volume) by
    refine ⟨replies, hreplies, ?_⟩
    rw [hserve, hlast]
    simp only [Service.after, Service.failing, List.append_nil]
    rfl
  cases event with
  | orphaned r =>
    obtain rfl := Option.some.inj h
    obtain ⟨reply, w, hanswer, -⟩ := r.exists_outcome_answer habs s.clock answered.2.volume
    have hlast : Shell.answerAll answered.2 [(s.clock, r)] = ([.ok reply], { s with volume := w }) :=
      (congrArg (Shell.answerAll · [(s.clock, r)]) hshell).trans (answerAll_of_answer hanswer [])
    have hrun : (r.answer s.directory s.clock).run.run answered.2.volume = (.ok reply, w) := hanswer
    rw [serve, StateT.run_bind, hrun]
    show _ = (Service.failing .brokenPipe rest.length,
      (Shell.answerAll answered.2 [(s.clock, r)]).2.volume)
    rw [hlast]
    rfl
  | unreceived e =>
    obtain rfl := Option.some.inj h
    rw [serve]
    rfl
  | idle | ended => cases h
  | message m =>
    cases m with
    | misfit e =>
      obtain rfl := Option.some.inj h
      rw [serve]
      rfl
    | _ => cases h

theorem exists_serve_last (directory : Text) (now : Int) (timeoutMs exitCode : Json) {rest : List Arrival}
    (hlast : ∀ a ∈ rest.head?, a.message.isLast = true) {closing : List Event}
    (hclosing : Exhausted closing) (isReady : Bool) (v : Volume) :
    ∃ unread, (serve directory now timeoutMs exitCode isReady (arriving rest ++ closing)).run v =
      (.ending (lastContents exitCode (rest.map Arrival.message)) unread, v) := by
  cases rest with
  | nil =>
    rw [arriving, List.flatMap_nil, List.nil_append]
    obtain rfl | ⟨others, rfl⟩ := hclosing
    · exact ⟨0, by rw [serve]; rfl⟩
    · exact ⟨others.length, by rw [serve]; rfl⟩
  | cons a rest =>
    obtain ⟨idle, m⟩ := a
    have hm : m.isLast = true := hlast _ rfl
    refine ⟨(arriving rest ++ closing).length, ?_⟩
    rw [arriving, List.flatMap_cons, List.append_assoc, serve_arrival, ← arriving]
    cases m with
    | done =>
      rw [serve]
      rfl
    | failed content =>
      rw [serve]
      rfl
    | _ => cases hm

theorem exists_serve_sent (exitCode : Json) {s : Shell} (habs : Path.isAbsolute s.directory = true)
    {sent : List Arrival} (hsound : ∀ a ∈ sent, a.message.IsSound)
    (htime : .ready ∈ beforeLast (sent.map Arrival.message) → leavesNoTime timeoutMs = .ok false)
    {closing : List Event} (hclosing : Exhausted closing) :
    let before := beforeLast (sent.map Arrival.message)
    let answered := Shell.answerAll s (requestsAt s.clock before)
    ∃ replies unread, answered.1 = replies.map .ok ∧
      (serve s.directory s.clock timeoutMs exitCode false (arriving sent ++ closing)).run s.volume =
        (⟨before.filterMap Message.out?, before.filterMap Message.err? ++
            lastContents exitCode (fromLast (sent.map Arrival.message)), replies, unread, none⟩,
          answered.2.volume) := by
  let goesOn : Arrival → Bool := fun a => !a.message.isLast
  have hbefore : beforeLast (sent.map Arrival.message) =
      (sent.takeWhile goesOn).map Arrival.message := List.takeWhile_map
  have hfrom : fromLast (sent.map Arrival.message) =
      (sent.dropWhile goesOn).map Arrival.message := List.dropWhile_map
  have hopen : ∀ a ∈ sent.takeWhile goesOn, a.message.IsOpen := by
    intro a ha
    have hgoes : goesOn a = true := List.all_eq_true.mp List.all_takeWhile a ha
    have hlast : a.message.isLast = false := by simpa [goesOn] using hgoes
    have hmem : a ∈ sent := (List.takeWhile_sublist goesOn).subset ha
    exact Message.isOpen_of_isSound (hsound a hmem) hlast
  have hlast : ∀ a ∈ (sent.dropWhile goesOn).head?, a.message.isLast = true := by
    intro a ha
    have hhead := List.head?_dropWhile_not goesOn sent
    rw [Option.mem_def.mp ha] at hhead
    simpa [goesOn] using hhead
  rw [hbefore] at htime ⊢
  intro before answered
  obtain ⟨isReady, replies, hreplies, hserve⟩ := exists_serve_open exitCode false habs hopen
    (fun hready => .inr (htime hready)) (arriving (sent.dropWhile goesOn) ++ closing)
  obtain ⟨unread, hend⟩ := exists_serve_last s.directory s.clock timeoutMs exitCode hlast hclosing
    isReady answered.2.volume
  rw [← List.append_assoc, ← arriving_append, List.takeWhile_append_dropWhile] at hserve
  refine ⟨replies, unread, hreplies, ?_⟩
  rw [hserve, hend, hfrom]
  simp only [Service.after, Service.ending, List.append_nil]
  rfl

end

theorem output_of_sound {sent : List Arrival} (hsound : ∀ a ∈ sent, a.message.IsSound)
    (exitCode : Json) (replies : List Reply) (unread : Nat) :
    let before := beforeLast (sent.map Arrival.message)
    let last := lastContents exitCode (fromLast (sent.map Arrival.message))
    Service.output ⟨before.filterMap Message.out?, before.filterMap Message.err? ++ last, replies,
        unread, none⟩ =
      .ok ⟨joined (before.filterMap Message.out?),
        joined (before.filterMap Message.err? ++ last)⟩ := by
  intro before last
  have hmessages : ∀ m ∈ sent.map Arrival.message, m.IsSound := by
    rw [List.forall_mem_map]
    exact hsound
  have hbefore : ∀ m ∈ before, m.IsSound :=
    fun m hm => hmessages m ((List.takeWhile_sublist _).subset hm)
  have hfrom : ∀ m ∈ fromLast (sent.map Arrival.message), m.IsSound :=
    fun m hm => hmessages m ((List.dropWhile_sublist _).subset hm)
  have hout : ∀ c ∈ before.filterMap Message.out?, ∃ t, c = .string t := by
    intro c hc
    obtain ⟨m, hm, hcontent⟩ := List.mem_filterMap.mp hc
    exact (hbefore m hm).out hcontent
  have herr : ∀ c ∈ before.filterMap Message.err? ++ last, ∃ t, c = .string t := by
    intro c hc
    rcases List.mem_append.mp hc with hc | hc
    · obtain ⟨m, hm, hcontent⟩ := List.mem_filterMap.mp hc
      exact (hbefore m hm).err hcontent
    · exact exists_string_of_mem_last hfrom hc
  simp only [Service.output, written_of_strings hout, written_of_strings herr]

/-- Of all that arrives, what has an effect: no silence, no message of an unknown kind, one sign of
readiness, and nothing behind what ends a service. -/
def essence : Bool → List Event → List Event
  | _, [] => [.ended]
  | _, .ended :: _ => [.ended]
  | _, .unreceived f :: _ => [.unreceived f]
  | wasReady, .idle :: rest => essence wasReady rest
  | _, .message .done :: _ => [.message .done]
  | _, .message (.failed content) :: _ => [.message (.failed content)]
  | _, .message (.misfit f) :: _ => [.message (.misfit f)]
  | _, .orphaned r :: _ => [.orphaned r]
  | wasReady, .message .unknown :: rest => essence wasReady rest
  | true, .message .ready :: rest => essence true rest
  | false, .message .ready :: rest => .message .ready :: essence true rest
  | wasReady, .message (.out content) :: rest => .message (.out content) :: essence wasReady rest
  | wasReady, .message (.err content) :: rest => .message (.err content) :: essence wasReady rest
  | wasReady, .message (.request r) :: rest => .message (.request r) :: essence wasReady rest

def Service.regardless (s : Service) : Service :=
  { s with unread := 0 }

theorem output_eq_of_regardless {s t : Service} (h : s.regardless = t.regardless) :
    s.output = t.output := by
  have hunread : ∀ u : Service, u.regardless.output = u.output := fun _ => rfl
  rw [← hunread s, h, hunread]

section

/-- Services agree if they come to the same, however much is left unread, and leave the same volume. -/
def Agreeing (x y : Service × Volume) : Prop :=
  x.1.regardless = y.1.regardless ∧ x.2 = y.2

variable (directory : Text) (now : Int) (timeoutMs exitCode : Json)

theorem agreeing_essence (wasReady : Bool) (events : List Event) (v : Volume) :
    Agreeing ((serve directory now timeoutMs exitCode wasReady (essence wasReady events)).run v)
      ((serve directory now timeoutMs exitCode wasReady events).run v) := by
  induction events generalizing wasReady v with
  | nil =>
    rw [essence, serve, serve]
    exact ⟨rfl, rfl⟩
  | cons e rest ih =>
    cases e with
    | idle =>
      rw [essence, serve]
      exact ih wasReady v
    | ended | unreceived f =>
      rw [essence, serve, serve]
      exact ⟨rfl, rfl⟩
    | orphaned r =>
      rw [essence, serve, serve, StateT.run_bind, StateT.run_bind]
      rcases (r.answer directory now).run.run v with ⟨e | reply, w⟩
      · exact ⟨rfl, rfl⟩
      · exact ⟨rfl, rfl⟩
    | message m =>
      cases m with
      | out content =>
        obtain ⟨hservice, hvolume⟩ := ih wasReady v
        rw [essence, serve_out, serve_out]
        exact ⟨congrArg (fun t : Service => { t with out := content :: t.out }) hservice, hvolume⟩
      | err content =>
        obtain ⟨hservice, hvolume⟩ := ih wasReady v
        rw [essence, serve_err, serve_err]
        exact ⟨congrArg (fun t : Service => { t with err := content :: t.err }) hservice, hvolume⟩
      | request r =>
        rw [essence]
        rcases hanswer : outcome (r.answer directory now) v with ⟨e | reply, w⟩
        · have hrun : (r.answer directory now).run.run v = (.error e, w) := hanswer
          rw [serve, serve, StateT.run_bind, StateT.run_bind, hrun]
          exact ⟨rfl, rfl⟩
        · obtain ⟨hservice, hvolume⟩ := ih wasReady w
          rw [serve_request hanswer, serve_request hanswer]
          exact ⟨congrArg (fun t : Service => { t with replies := reply :: t.replies }) hservice,
            hvolume⟩
      | unknown =>
        rw [essence, serve]
        exact ih wasReady v
      | done | failed content | misfit f =>
        rw [essence, serve, serve]
        exact ⟨rfl, rfl⟩
      | ready =>
        cases wasReady with
        | true =>
          rw [essence, serve]
          exact ih true v
        | false =>
          rw [essence, serve, serve]
          cases leavesNoTime timeoutMs with
          | error f => exact ⟨rfl, rfl⟩
          | ok none =>
            cases none with
            | true => exact ⟨rfl, rfl⟩
            | false => exact ih true v

theorem agreeing_of_essence_eq {events others : List Event}
    (h : essence false others = essence false events) (v : Volume) :
    Agreeing ((serve directory now timeoutMs exitCode false others).run v)
      ((serve directory now timeoutMs exitCode false events).run v) := by
  obtain ⟨hfirst, hfirst'⟩ := agreeing_essence directory now timeoutMs exitCode false others v
  have hsecond := agreeing_essence directory now timeoutMs exitCode false events v
  rw [h] at hfirst hfirst'
  exact ⟨hfirst.symm.trans hsecond.1, hfirst'.symm.trans hsecond.2⟩

end

end MemoryShell.Isolate
