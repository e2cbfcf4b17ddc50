import MemoryShell.Isolate.Process
import MemoryShell.Proofs.Coupling
import MemoryShell.Proofs.Volume.Change

set_option autoImplicit false

namespace MemoryShell

open Volume

namespace Invocation

/-- The operations that an invocation may run. -/
inductive MayRun : Invocation → Operation → Prop
  | exists (path : Argument) (s : Text) : MayRun (.exists path) (.exists s)
  | stat (path : Argument) (s : Text) : MayRun (.stat path) (.stat s)
  | access (path request : Argument) (s : Text) (n : Int) :
      MayRun (.access path request) (.access s n)
  | readDirectory (path : Argument) (s : Text) : MayRun (.readDirectory path) (.readDirectory s)
  | read (path encoding : Argument) (s : Text) (name : Option String) :
      MayRun (.read path encoding) (.read s name)
  | write (mode : WriteMode) (path content : Argument) (s : Text) (c : Content) :
      MayRun (.write mode path content) (.write mode s c)
  | makeDirectory (path recursive : Argument) (s : Text) (b : Bool) :
      MayRun (.makeDirectory path recursive) (.makeDirectory s b)
  | copyFile (source destination : Argument) (s : Text) (c : Content) :
      MayRun (.copyFile source destination) (.write .replace s c)
  | remove (path recursive force : Argument) (s : Text) (b c : Bool) :
      MayRun (.remove path recursive force) (.remove s b c)
  | setTimes (path : Argument) (mtime : Json) (s : Text) :
      MayRun (.setTimes path mtime) (.setTimes s mtime)
  | setMode (path mode : Argument) (s : Text) (n : Int) : MayRun (.setMode path mode) (.setMode s n)

/-- Volumes on which whatever is only looked at is found alike. -/
structure Alike (R : Volume → Volume → Prop) : Prop where
  released : ∀ {v w}, R v w → v.released = w.released
  find : ∀ {v w}, R v w → ∀ s, Agree (fun _ _ => True) (v.find s) (w.find s)
  writable : ∀ {v w}, R v w → ∀ s,
    Agree (fun a b => a.node?.isSome = b.node?.isSome) (v.writable s) (w.writable s)
  fileData : ∀ {v w}, R v w → ∀ s, Agree Eq (v.fileData s) (w.fileData s)

section

variable {R : Volume → Volume → Prop} {Q : Value → Value → Prop} {now : Int}

theorem coupled_spelling (a : Argument) : Coupled R Eq (spelling a) (spelling a) := by
  unfold spelling
  split
  · exact Coupled.pure rfl
  · exact Coupled.throw _
  · exact Coupled.throw _
  · exact Coupled.throw _

theorem coupled_run {op : Operation} (h : Coupled R Q (op.perform now) (op.perform now)) :
    Coupled R Q (run now op) (run now op) :=
  h.adapt _

variable (hR : Alike R)

include hR

theorem coupled_lookupSpelling (a : Argument) :
    Coupled R Eq (lookupSpelling a) (lookupSpelling a) := by
  have hopen : Coupled R Eq ensureOpen ensureOpen := by
    intro v w hvw
    rw [outcome_ensureOpen, outcome_ensureOpen, hR.released hvw]
    refine ⟨?_, hvw⟩
    split <;> rfl
  exact (hopen.adapt _).bind fun _ _ _ => coupled_spelling a

theorem coupled_bits (path : Text) (a : Argument) : Coupled R Eq (bits path a) (bits path a) := by
  have hlookup : Coupled R (fun _ _ => True) (lookup path) (lookup path) := by
    intro v w hvw
    rw [outcome_lookup, outcome_lookup]
    exact ⟨hR.find hvw path, hvw⟩
  unfold bits
  split
  · exact Coupled.pure rfl
  · exact (hlookup.adapt _).bind fun _ _ _ => Coupled.throw _

theorem coupled_readFile (path : Text) : Coupled R Eq (readFile path) (readFile path) := by
  intro v w hvw
  rw [outcome_readFile, outcome_readFile]
  exact ⟨hR.fileData hvw path, hvw⟩

omit hR in
theorem dataFor_congr {a b : Slot} (h : a.node?.isSome = b.node?.isSome) (mode : WriteMode)
    (kind : String) (octets : Except Fault Bytes) :
    dataFor mode a kind octets = dataFor mode b kind octets := by
  unfold dataFor
  cases ha : a.node? with
  | none =>
    rw [ha, Option.isSome_none] at h
    have hb : b.node? = none := Option.isNone_iff_eq_none.mp (Option.isSome_eq_false_iff.mp h.symm)
    rw [hb]
  | some x =>
    rw [ha, Option.isSome_some] at h
    obtain ⟨y, hy⟩ := Option.isSome_iff_exists.mp h.symm
    rw [hy]
    cases mode <;> rfl

theorem coupled_writeOther {mode : WriteMode}
    (h : ∀ s c, Coupled R Q ((Operation.write mode s c).perform now)
      ((Operation.write mode s c).perform now)) (path : Argument) (kind : String)
    (octets : Except Fault Bytes) :
    Coupled R Q (writeOther now mode path kind octets) (writeOther now mode path kind octets) := by
  have hslot : ∀ p, Coupled R (fun a b => a.node?.isSome = b.node?.isSome) (writableSlot p)
      (writableSlot p) := by
    intro p v w hvw
    rw [outcome_writableSlot, outcome_writableSlot]
    exact ⟨hR.writable hvw p, hvw⟩
  refine (coupled_spelling path).bind fun p q hpq => ?_
  subst hpq
  refine ((hslot p).adapt _).bind fun a b hab => ?_
  rw [dataFor_congr hab]
  split
  · exact coupled_run (h p _)
  · exact Coupled.throw _

theorem coupled_writeAny {mode : WriteMode}
    (h : ∀ s c, Coupled R Q ((Operation.write mode s c).perform now)
      ((Operation.write mode s c).perform now)) (path content : Argument) :
    Coupled R Q (writeAny now mode path content) (writeAny now mode path content) := by
  unfold writeAny
  split
  · split
    · exact Coupled.throw _
    · refine (coupled_spelling path).bind fun p q hpq => ?_
      subst hpq
      exact coupled_run (h p _)
  · refine (coupled_spelling path).bind fun p q hpq => ?_
    subst hpq
    exact coupled_run (h p _)
  · exact coupled_writeOther hR h path _ _
  · exact coupled_writeOther hR h path _ _

theorem coupled_readAs
    (h : ∀ s name, Coupled R Q ((Operation.read s name).perform now)
      ((Operation.read s name).perform now)) (path encoding : Argument) :
    Coupled R Q (readAs now path encoding) (readAs now path encoding) := by
  unfold readAs
  split
  · refine (coupled_lookupSpelling hR path).bind fun p q hpq => ?_
    subst hpq
    exact coupled_run (h p _)
  · refine (coupled_lookupSpelling hR path).bind fun p q hpq => ?_
    subst hpq
    exact coupled_run (h p _)
  · refine (coupled_lookupSpelling hR path).bind fun p q hpq => ?_
    subst hpq
    exact ((coupled_readFile hR p).adapt _).bind fun _ _ _ => Coupled.throw _

theorem coupled_perform {i : Invocation}
    (h : ∀ op, MayRun i op → Coupled R Q (op.perform now) (op.perform now)) :
    Coupled R Q (i.perform now) (i.perform now) := by
  have hone : ∀ {f : Text → Operation} (a : Argument), (∀ s, MayRun i (f s)) →
      Coupled R Q (lookupSpelling a >>= fun s => run now (f s))
        (lookupSpelling a >>= fun s => run now (f s)) := by
    intro f a hf
    refine (coupled_lookupSpelling hR a).bind fun p q hpq => ?_
    subst hpq
    exact coupled_run (h _ (hf p))
  have hplain : ∀ {f : Text → Operation} (a : Argument), (∀ s, MayRun i (f s)) →
      Coupled R Q (spelling a >>= fun s => run now (f s))
        (spelling a >>= fun s => run now (f s)) := by
    intro f a hf
    refine (coupled_spelling a).bind fun p q hpq => ?_
    subst hpq
    exact coupled_run (h _ (hf p))
  have hbits : ∀ {f : Text → Int → Operation} (a b : Argument), (∀ s n, MayRun i (f s n)) →
      Coupled R Q (lookupSpelling a >>= fun s => bits s b >>= fun n => run now (f s n))
        (lookupSpelling a >>= fun s => bits s b >>= fun n => run now (f s n)) := by
    intro f a b hf
    refine (coupled_lookupSpelling hR a).bind fun p q hpq => ?_
    subst hpq
    refine (coupled_bits hR p b).bind fun m n hmn => ?_
    subst hmn
    exact coupled_run (h _ (hf p m))
  cases i with
  | «exists» path => exact hone path (.exists path)
  | stat path => exact hone path (.stat path)
  | access path request => exact hbits path request (.access path request)
  | readDirectory path => exact hone path (.readDirectory path)
  | read path encoding =>
    exact coupled_readAs hR (fun s name => h _ (.read path encoding s name)) path encoding
  | write mode path content =>
    exact coupled_writeAny hR (fun s c => h _ (.write mode path content s c)) path content
  | makeDirectory path recursive =>
    rw [perform]
    split
    · exact hone path fun s => .makeDirectory path recursive s true
    · exact hplain path fun s => .makeDirectory path recursive s false
  | copyFile source destination =>
    refine (coupled_lookupSpelling hR source).bind fun p q hpq => ?_
    subst hpq
    refine ((coupled_readFile hR p).adapt _).bind fun data other hdata => ?_
    subst hdata
    exact hplain destination fun s => .copyFile source destination s (.octets data)
  | remove path recursive force =>
    exact hplain path fun s => .remove path recursive force s _ _
  | setTimes path mtime => exact hone path (.setTimes path mtime)
  | setMode path mode => exact hbits path mode (.setMode path mode)

theorem coupled_call {r : Receiver} {method : String}
    (h : ∀ m, Method.ofName? method = some m → ∀ a op, MayRun (ofMethod r now a m) op →
      Coupled R Q (op.perform now) (op.perform now))
    (placed : List Argument) (named : Assignment) :
    Coupled R Q (call r now method placed named) (call r now method placed named) := by
  unfold call
  split
  · exact Coupled.throw _
  · rename_i m hm
    split
    · exact Coupled.throw _
    · rename_i a _
      exact coupled_perform hR (h m hm a)

end

theorem Alike.of_eq (I : Volume → Prop) : Alike fun v w => v = w ∧ I v where
  released h := by rw [h.1]
  find := by
    rintro v _ ⟨rfl, -⟩ s
    cases v.find s <;> trivial
  writable := by
    rintro v _ ⟨rfl, -⟩ s
    cases v.writable s <;> rfl
  fileData := by
    rintro v _ ⟨rfl, -⟩ s
    cases v.fileData s <;> rfl

theorem keeps_call_of_keeps {I : Volume → Prop} {P : Value → Prop} {r : Receiver} {now : Int}
    {method : String}
    (h : ∀ m, Method.ofName? method = some m → ∀ a op, MayRun (ofMethod r now a m) op →
      Keeps I P (op.perform now))
    (placed : List Argument) (named : Assignment) :
    Keeps I P (call r now method placed named) :=
  .of_coupled (coupled_call (Alike.of_eq I)
    (fun m hm a op hop => (h m hm a op hop).coupled fun _ hb => ⟨rfl, hb⟩) placed named)

theorem keeps_call {I : Volume → Prop} {r : Receiver} {now : Int} {method : String}
    (h : ∀ m, Method.ofName? method = some m → ∀ a op, MayRun (ofMethod r now a m) op →
      ∀ w, I w → I (outcome (op.perform now) w).2)
    (placed : List Argument) (named : Assignment) :
    Keeps I (fun _ => True) (call r now method placed named) :=
  keeps_call_of_keeps (fun m hm a op hop w hw => ⟨fun _ _ => trivial, h m hm a op hop w hw⟩) placed
    named

end Invocation

def Volume.Operation.isMild : Operation → Bool
  | .remove _ _ _ => false
  | .setMode _ _ => false
  | _ => true

namespace Request

theorem isMild_of_mayRun {name : String} (h : isAllowed name = true) {m : Method}
    (hm : Method.ofName? name = some m) {now : Int} {a : Assignment} {op : Volume.Operation}
    (hop : Invocation.MayRun (Invocation.ofMethod .files now a m) op) : op.isMild = true := by
  have hname : m.name = name := by simpa using List.find?_some hm
  have hallowed : m ≠ .remove ∧ m ≠ .setMode := by
    constructor
    · rintro rfl
      rw [← hname] at h
      exact absurd h (by decide)
    · rintro rfl
      rw [← hname] at h
      exact absurd h (by decide)
  cases m with
  | remove => exact absurd rfl hallowed.1
  | setMode => exact absurd rfl hallowed.2
  | _ =>
    cases hop
    rfl

def denial (r : Request) : Reply :=
  .failure "PermissionError" (r.method ++ ": operation not permitted")

theorem outcome_answer_of_not_allowed {r : Request} (h : isAllowed r.method = false)
    (directory : Text) (now : Int) (v : Volume) :
    outcome (r.answer directory now) v = (.ok r.denial, v) := by
  rw [answer, h]
  rfl

theorem outcome_answer_of_allowed {r : Request} (h : isAllowed r.method = true) {directory : Text}
    {args : List Argument} (hargs : resolveArguments directory (spellings r.method) r.args = .ok args)
    (now : Int) (v : Volume) :
    outcome (r.answer directory now) v =
      (.ok (reply (outcome (Invocation.call .files now r.method args []) v).1),
        (outcome (Invocation.call .files now r.method args []) v).2) := by
  rw [answer, h, hargs]
  rfl

theorem coupled_answer {R : Volume → Volume → Prop} (hR : Invocation.Alike R) {now : Int}
    (h : ∀ op : Operation, op.isMild = true → Coupled R Eq (op.perform now) (op.perform now))
    (r : Request) (directory : Text) :
    Coupled R Eq (r.answer directory now) (r.answer directory now) := by
  intro v w hvw
  cases hallowed : isAllowed r.method with
  | false =>
    rw [outcome_answer_of_not_allowed hallowed, outcome_answer_of_not_allowed hallowed]
    exact ⟨rfl, hvw⟩
  | true =>
    cases hargs : resolveArguments directory (spellings r.method) r.args with
    | error e =>
      have hfailed : r.answer directory now = throw e := by
        rw [answer, hallowed, hargs]
        rfl
      rw [hfailed]
      exact ⟨rfl, hvw⟩
    | ok args =>
      obtain ⟨hagree, hafter⟩ := Invocation.coupled_call hR
        (fun m hm a op hop => h op (isMild_of_mayRun hallowed hm hop)) args [] v w hvw
      rw [outcome_answer_of_allowed hallowed hargs, outcome_answer_of_allowed hallowed hargs]
      refine ⟨?_, hafter⟩
      rcases hagree.cases with ⟨a, b, ha, hb, hab⟩ | ⟨e, ha, hb⟩
      · rw [ha, hb, hab]
        rfl
      · rw [ha, hb]
        rfl

end Request

/-- The volume has come about by changes of another one. -/
abbrev Since (v : Volume) : Volume → Prop :=
  Changes (fun _ => True) True v

theorem Volume.Changes.since {Allowed : Name → Prop} {Modes : Prop} {v w : Volume}
    (h : Changes Allowed Modes v w) : Since v w := by
  refine Relation.ReflTransGen.mono (fun _ _ hchange => ?_) v w h
  cases hchange with
  | newFile now p data _ => exact .newFile now p data trivial
  | newDirectory now p _ => exact .newDirectory now p trivial
  | emptied now p name => exact .emptied now p name
  | data now p g => exact .data now p g
  | time p t => exact .time p t
  | mode p m _ => exact .mode p m trivial

variable {v : Volume}

theorem since_perform (op : Operation) (now : Int) (w : Volume) (hw : Since v w) :
    Since v (outcome (op.perform now) w).2 :=
  hw.trans (changes_perform (fun _ _ _ _ _ _ => trivial) now w)

theorem Invocation.since_call (r : Receiver) (now : Int) (method : String)
    (placed : List Argument) (named : Assignment) :
    Keeps (Since v) (fun _ => True) (call r now method placed named) :=
  keeps_call (fun _ _ _ op _ => since_perform op now) placed named

theorem Request.keeps_answer (r : Request) (directory : Text) (now : Int) :
    Keeps (Since v) (fun _ => True) (r.answer directory now) := by
  unfold Request.answer
  split
  · exact Keeps.pure trivial
  · split
    · exact Keeps.throw _
    · rename_i args _
      intro w hw
      exact ⟨fun _ _ => trivial, (Invocation.since_call .files now r.method args [] w hw).2⟩

theorem Isolate.holds_serve {I : Volume → Prop} {directory : Text} {now : Int}
    {events : List Isolate.Event}
    (h : ∀ r : Request, Keeps I (fun _ => True) (r.answer directory now))
    (timeoutMs exitCode : Json) (wasReady : Bool) (w : Volume) (hw : I w) :
    I ((Isolate.serve directory now timeoutMs exitCode wasReady events).run w).2 := by
  induction events generalizing wasReady w with
  | nil => exact hw
  | cons event rest ih =>
    cases event with
    | idle => exact ih wasReady w hw
    | ended => exact hw
    | unreceived f => exact hw
    | orphaned r =>
      have hanswered := (h r w hw).2
      rw [outcome] at hanswered
      rw [Isolate.serve, StateT.run_bind]
      rcases hrun : (r.answer directory now).run.run w with ⟨_ | reply, t⟩
      all_goals
        rw [hrun] at hanswered
        exact hanswered
    | message m =>
      cases m with
      | done => exact hw
      | failed content => exact hw
      | misfit f => exact hw
      | unknown => exact ih wasReady w hw
      | out content => exact ih wasReady w hw
      | err content => exact ih wasReady w hw
      | ready =>
        cases wasReady with
        | true => exact ih true w hw
        | false =>
          rw [Isolate.serve]
          cases leavesNoTime timeoutMs with
          | error f => exact hw
          | ok expired =>
            cases expired with
            | true => exact hw
            | false => exact ih true w hw
      | request r =>
        have hanswered := (h r w hw).2
        rw [outcome] at hanswered
        rw [Isolate.serve, StateT.run_bind]
        rcases hrun : (r.answer directory now).run.run w with ⟨_ | reply, t⟩
        · rw [hrun] at hanswered
          exact hanswered
        · rw [hrun] at hanswered
          exact ih wasReady t hanswered

theorem Isolate.since_serve (directory : Text) (now : Int) (timeoutMs exitCode : Json)
    (wasReady : Bool) (events : List Isolate.Event) (w : Volume) (hw : Since v w) :
    Since v ((Isolate.serve directory now timeoutMs exitCode wasReady events).run w).2 :=
  Isolate.holds_serve (fun r => Request.keeps_answer r directory now) timeoutMs exitCode wasReady w hw

end MemoryShell
