import MemoryShell.Isolate.Script
import MemoryShell.Proofs.Shell.Accord
import MemoryShell.Proofs.Volume.Intact

set_option autoImplicit false

namespace MemoryShell

/-- A request for a method that an isolate may call. -/
structure Request.Offered extends Request where
  offered : Request.isAllowed method = true

namespace Isolate

/-- A failure as code in an isolate sees it. -/
structure Raised where
  label : String
  text : Text

def Raised.ofFailure (f : Failure) : Raised :=
  ⟨keptLabel f.label, f.message⟩

def Raised.ofRefusal (e : Refusal) : Raised :=
  ⟨e.label, e.words⟩

def heard : Reply → Except Raised Volume.Value
  | .value v => .ok v
  | .failure label text => .error ⟨keptLabel label, text⟩

/-- What code in an isolate does next, and how it goes on. -/
inductive Conduct
  | ended (failure : Option ScriptError)
  | log (args : List Json) (next : Conduct)
  | error (args : List Json) (next : Conduct)
  | call (r : Request.Offered) (next : Except Raised Volume.Value → Conduct)

def Conduct.Crosses : Conduct → Prop
  | .ended _ => True
  | .log _ next | .error _ next => next.Crosses
  | .call r next => r.refusal? = none ∧ ∀ result, (next result).Crosses

def Conduct.enclosed : Conduct → Conduct
  | .ended failure => .ended failure
  | .log args next => .log args next.enclosed
  | .error args next => .error args next.enclosed
  | .call r next =>
    match r.refusal? with
    | some e => (next (.error (.ofRefusal e))).enclosed
    | none => .call r fun result => (next result).enclosed

theorem Conduct.Crosses.enclosed_eq {c : Conduct} (h : c.Crosses) : c.enclosed = c := by
  induction c with
  | ended failure => rfl
  | log args next ih => rw [enclosed, ih h]
  | error args next ih => rw [enclosed, ih h]
  | call r next ih =>
    obtain ⟨hsent, hnext⟩ := h
    simp only [enclosed, hsent, fun result => ih result (hnext result)]

/-- Something that code in an isolate did. -/
inductive Act
  | log (args : List Json)
  | error (args : List Json)
  | call (r : Request) (result : Except Raised Volume.Value)

namespace Act

def message : Act → Message
  | log args => .out (.string (line args))
  | error args => .err (.string (line args))
  | call r _ => .request r

def logged? : Act → Option Text
  | log args => some (line args)
  | _ => none

def complained? : Act → Option Text
  | error args => some (line args)
  | _ => none

def call? : Act → Option (Request × Except Raised Volume.Value)
  | call r result => some (r, result)
  | _ => none

end Act

/-- What a conduct comes to: everything done, the failure that ended it if there is one, and the
shell afterwards. -/
structure Account where
  acts : List Act
  failure : Option ScriptError
  shell : Shell

namespace Account

def after (a : Account) (acts : List Act) : Account :=
  { a with acts := acts ++ a.acts }

theorem after_after (a : Account) (acts more : List Act) :
    (a.after more).after acts = a.after (acts ++ more) := by
  simp [after]

def ending : Option ScriptError → Message
  | none => .done
  | some e => .failed (.string e.message)

def messages (a : Account) : List Message :=
  a.acts.map Act.message ++ [ending a.failure]

end Account

def callDirectly (r : Request) (s : Shell) : Except Raised Volume.Value × Shell :=
  let done := outcome (Shell.callFiles r.method (r.argsFrom s.directory) []) s
  (done.1.mapError Raised.ofFailure, done.2)

def Conduct.direct : Conduct → Shell → Account
  | .ended failure, s => ⟨[], failure, s⟩
  | .log args next, s => (next.direct s).after [.log args]
  | .error args next, s => (next.direct s).after [.error args]
  | .call r next, s =>
    let done := callDirectly r.toRequest s
    ((next done.1).direct done.2).after [.call r.toRequest done.1]

theorem callDirectly_shell (r : Request) (s : Shell) :
    (callDirectly r s).2 = { s with volume := (callDirectly r s).2.volume } := by
  unfold callDirectly
  rw [Shell.outcome_callFiles]

theorem Conduct.direct_shell (c : Conduct) (s : Shell) :
    (c.direct s).shell = { s with volume := (c.direct s).shell.volume } := by
  induction c generalizing s with
  | ended failure => rfl
  | log args next ih => exact ih s
  | error args next ih => exact ih s
  | call r next ih =>
    simp only [direct, Account.after]
    rw [callDirectly_shell r.toRequest s]
    exact ih _ { s with volume := (callDirectly r.toRequest s).2.volume }

theorem ofFailure_failureOfCall (e : Invocation.Error) :
    Raised.ofFailure (Shell.failureOfCall e) = ⟨keptLabel e.label, e.message⟩ := by
  cases e <;> rfl

theorem exists_reply_eq {s : Shell} (habs : Path.isAbsolute s.directory = true)
    (r : Request.Offered) :
    ∃ reply, outcome (r.answer s.directory s.clock) s.volume =
        (.ok reply, (callDirectly r.toRequest s).2.volume) ∧
      heard reply = (callDirectly r.toRequest s).1 := by
  unfold callDirectly
  rw [Request.outcome_answer_of_absolute habs r.offered, Shell.outcome_callFiles]
  refine ⟨_, rfl, ?_⟩
  rcases outcome (Invocation.call .files s.clock r.method (r.argsFrom s.directory) []) s.volume with
    ⟨e | value, v⟩
  · exact congrArg Except.error (ofFailure_failureOfCall e).symm
  · rfl

/-! ## Scripts -/

/-- A conduct does what an instruction does, and something else after it if that does not end the
script; it calls only with what can leave the isolate if what comes after does. -/
def Follows (w : Surroundings) (i : Instruction) (next c : Conduct) : Prop :=
  (next.Crosses → c.Crosses) ∧ ∀ s : Shell, s.directory = w.directory → s.clock = w.now →
    ∃ acts failure v, (i.run w).run s.volume = ((acts.map Act.message, failure), v) ∧
      c.direct s = match failure with
        | some e => ⟨acts, some e, { s with volume := v }⟩
        | none => (next.direct { s with volume := v }).after acts

theorem line_string (text : Text) : line [.string text] = text ++ "\n" := by
  simp [line, List.intercalate, Json.display]

theorem prints_eq (text : Text) : prints text = ([(Act.log [.string text]).message], none) := by
  rw [Act.message, line_string, prints]

section

variable {w : Surroundings}

theorem follows_prints {i : Instruction} {text : Text} (h : i.run w = pure (prints text))
    (next : Conduct) : Follows w i next (.log [.string text] next) := by
  refine ⟨id, fun s _ _ => ?_⟩
  refine ⟨[.log [.string text]], none, s.volume, ?_, rfl⟩
  rw [h, prints_eq]
  rfl

theorem follows_stops {i : Instruction} {e : ScriptError} (h : i.run w = pure (stops e))
    (next : Conduct) : Follows w i next (.ended (some e)) := by
  refine ⟨fun _ => trivial, fun s _ _ => ?_⟩
  refine ⟨[], some e, s.volume, ?_, rfl⟩
  rw [h]
  rfl

def callActs (caught : Bool) (r : Request) (result : Except Raised Volume.Value) :
    List Act × Option ScriptError :=
  match result with
  | .ok v => ([.call r result, .log [.string v.display]], none)
  | .error e =>
    if caught then ([.call r result, .log [.string (e.label ++ " " ++ e.text)]], none)
    else ([.call r result], some (.failure e.label e.text))

/-- How a script goes on after a call: what it was given is printed, but a failure that is not caught
ends the script. -/
def afterCall (caught : Bool) (next : Conduct) : Except Raised Volume.Value → Conduct
  | .ok v => .log [.string v.display] next
  | .error e =>
    if caught then .log [.string (e.label ++ " " ++ e.text)] next
    else .ended (some (.failure e.label e.text))

theorem run_callFiles {r : Request} (hallowed : Request.isAllowed r.method = true)
    (hsent : r.refusal? = none) {reply : Reply}
    {v t : Volume} (h : outcome (r.answer w.directory w.now) v = (.ok reply, t)) (caught : Bool) :
    (callFiles w caught r.method r.args).run v =
      (((callActs caught r (heard reply)).1.map Act.message,
        (callActs caught r (heard reply)).2), t) := by
  obtain ⟨method, args⟩ := r
  have hrun : (Request.answer w.directory w.now ⟨method, args⟩).run.run v = (.ok reply, t) := h
  have hprints : ∀ text, (prints text).1 = [(Act.log [.string text]).message] := fun text =>
    congrArg Prod.fst (prints_eq text)
  rw [callFiles, hallowed]
  simp only [Bool.not_true, Bool.false_eq_true, if_false, hsent, StateT.run_bind, hrun, hprints]
  cases reply with
  | value value => rfl
  | failure label text => cases caught <;> rfl

theorem exists_follows_call (habs : Path.isAbsolute w.directory = true) {i : Instruction}
    {caught : Bool} {method : String} {args : List Argument}
    (h : i.run w = callFiles w caught method args) (next : Conduct) :
    ∃ c, Follows w i next c := by
  cases hallowed : Request.isAllowed method with
  | false =>
    refine ⟨_, follows_stops (e := notOffered method) (h.trans ?_) next⟩
    rw [callFiles, hallowed]
    rfl
  | true =>
  cases hsent : Request.refusal? ⟨method, args⟩ with
  | some e =>
    refine ⟨_, follows_stops (e := .failure e.label e.words) (h.trans ?_) next⟩
    simp only [callFiles, hallowed, hsent]
    rfl
  | none =>
    let r : Request.Offered := ⟨⟨method, args⟩, hallowed⟩
    refine ⟨.call r (afterCall caught next), fun hnext => ⟨hsent, fun result => ?_⟩,
      fun s hdirectory hclock => ?_⟩
    · rcases result with e | v
      · cases caught with
        | false => trivial
        | true => exact hnext
      · exact hnext
    obtain ⟨reply, hanswer, hheard⟩ := exists_reply_eq (hdirectory ▸ habs) r
    rw [hdirectory, hclock] at hanswer
    have hrun := run_callFiles hallowed hsent hanswer caught
    rw [← h] at hrun
    refine ⟨_, _, _, hrun, ?_⟩
    rw [Conduct.direct, ← hheard, callDirectly_shell]
    rcases heard reply with e | v
    · cases caught <;> rfl
    · rfl

theorem exists_follows (habs : Path.isAbsolute w.directory = true) (i : Instruction)
    (next : Conduct) : ∃ c, Follows w i next c := by
  match i with
  | .log args =>
    exact ⟨.log args next, id, fun s _ _ => ⟨[.log args], none, s.volume, rfl, rfl⟩⟩
  | .error args =>
    exact ⟨.error args next, id, fun s _ _ => ⟨[.error args], none, s.volume, rfl, rfl⟩⟩
  | .call method args => exact exists_follows_call habs rfl next
  | .attempt method args => exact exists_follows_call habs rfl next
  | .environment key =>
    cases hkey : Demand.key key with
    | error f => exact ⟨_, follows_stops (by simp only [Instruction.run, hkey]; rfl) next⟩
    | ok key =>
      cases hfound : Keyed.find? w.environment key with
      | none => exact ⟨_, follows_stops (by simp only [Instruction.run, hkey, hfound]; rfl) next⟩
      | some value =>
        exact ⟨_, follows_prints (by simp only [Instruction.run, hkey, hfound]; rfl) next⟩
  | .allocate size =>
    cases hsize : sizeOf size with
    | error f =>
      exact ⟨_, follows_stops (by simp only [Instruction.run, allocates, hsize]; rfl) next⟩
    | ok n =>
      by_cases hroom : w.memoryLimitMb * megabyte ≤ n
      · exact ⟨_, follows_stops
          (by simp only [Instruction.run, allocates, hsize, hroom]; rfl) next⟩
      · exact ⟨_, follows_prints
          (by simp only [Instruction.run, allocates, hsize, hroom, if_false]; rfl) next⟩
  | .arguments => exact ⟨_, follows_prints rfl next⟩
  | .nothing => exact ⟨next, id, fun s _ _ => ⟨[], none, s.volume, rfl, rfl⟩⟩
  | .raise _ _ | .spin | .open | .load | .remove | .incomplete =>
    exact ⟨_, follows_stops rfl next⟩

theorem exists_conduct_runScript (habs : Path.isAbsolute w.directory = true)
    (script : List Instruction) :
    ∃ c : Conduct, c.Crosses ∧ ∀ s : Shell, s.directory = w.directory → s.clock = w.now →
      (runScript w script).run s.volume = ((c.direct s).messages, (c.direct s).shell.volume) := by
  induction script with
  | nil => exact ⟨.ended none, trivial, fun s _ _ => rfl⟩
  | cons i rest ih =>
    obtain ⟨next, hcrosses, hnext⟩ := ih
    obtain ⟨c, hkeeps, hdoes⟩ := exists_follows habs i next
    refine ⟨c, hkeeps hcrosses, fun s hdirectory hclock => ?_⟩
    obtain ⟨acts, failure, v, hrun, hdirect⟩ := hdoes s hdirectory hclock
    rw [runScript, StateT.run_bind, hrun, hdirect]
    cases failure with
    | some e => rfl
    | none =>
      change (runScript w rest >>= fun later => pure (acts.map Act.message ++ later)).run v = _
      rw [StateT.run_bind, hnext { s with volume := v } hdirectory hclock]
      simp only [Account.messages, Account.after, List.map_append, List.append_assoc]
      rfl

theorem exists_conduct (habs : Path.isAbsolute w.directory = true) (script : List Instruction) :
    ∃ c : Conduct, c.Crosses ∧ ∀ s : Shell, s.directory = w.directory → s.clock = w.now →
      (run w script).run s.volume =
        (⟨.ready :: (c.direct s).messages, 1, true⟩, (c.direct s).shell.volume) := by
  obtain ⟨c, hcrosses, hc⟩ := exists_conduct_runScript habs script
  refine ⟨c, hcrosses, fun s hdirectory hclock => ?_⟩
  rw [run, StateT.run_bind, hc s hdirectory hclock]
  rfl

end

end Isolate

end MemoryShell
