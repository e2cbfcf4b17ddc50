import MemoryShell.Proofs.Hook.Run
import MemoryShell.Shell.Execute

/-!
Hooks whose lists can be changed in place. A host runs a pipeline on a list of its own, and a hook may
change the list that it is given. Each hook is given a copy, made when the hook is started, so that the
run comes to what it comes to on equal lists, and every list that was there before is as it was.

Calls of a host on a pipeline follow one another: hooks are registered and run, and hooks that are run
register more. Each run takes the hooks that have been registered under its name until it begins.
-/

set_option autoImplicit false

namespace MemoryShell

/-- Lists that can be changed in place, by their addresses. -/
abbrev Lists := List (List Json)

/-- Something done in a shell, beside lists that can be changed in place. -/
abbrev InPlaceM := ExceptT Failure (StateM (Lists × Shell))

namespace Shell

open Hook

def inShell {α : Type} (x : ShellM α) : InPlaceM α :=
  ExceptT.mk fun state => ((outcome x state.2).1, (state.1, (outcome x state.2).2))

def listAt (address : Nat) : InPlaceM (List Json) := do
  return ((← get).1[address]?).getD []

def runActionsAt (execute : Json → ShellM Json) (stage : Stage) (id : Json) (output : Option Json)
    (address : Nat) : List HookAction → InPlaceM Unit
  | [] => pure ()
  | .log :: rest => do
    let args ← listAt address
    inShell (record (.logged (hookEntry id args output)))
    runActionsAt execute stage id output address rest
  | .change f :: rest => do
    modify fun state => (state.1.modify address f, state.2)
    runActionsAt execute stage id output address rest
  | .fail f :: _ => throw f
  | .register command other actions :: rest => do
    inShell (registerHook stage command ⟨other, actions⟩)
    runActionsAt execute stage id output address rest
  | .execute line :: rest => do
    let result ← inShell (execute line)
    inShell (record (.logged (.value id result)))
    runActionsAt execute stage id output address rest

def copyList (address : Nat) : InPlaceM Nat := do
  let args ← listAt address
  let state ← get
  set (state.1 ++ [args], state.2)
  return state.1.length

def runEachAt (execute : Json → ShellM Json) (stage : Stage) (command : Json) (address : Nat)
    (output : Option Json) : List Hook → InPlaceM Unit
  | [] => pure ()
  | h :: rest => do
    let copy ← copyList address
    let args ← listAt copy
    inShell (record (.hookStarted stage command h.id args))
    runActionsAt execute stage h.id output copy h.actions
    runEachAt execute stage command address output rest

def runHooksAt (execute : Json → ShellM Json) (stage : Stage) (command : Json) (address : Nat)
    (output : Option Json) : InPlaceM Unit := do
  let hooks := ((← get).2.hooksAt stage).hooksFor command
  runEachAt execute stage command address output hooks

/-- What a host asks of a pipeline. -/
inductive PipelineCall
  | register (command : Json) (h : Hook)
  | run (name : Text) (args : List Json) (output : Option Json)

namespace PipelineCall

def Contained : PipelineCall → Prop
  | .register _ h => h.Contained
  | .run _ _ _ => True

def perform (execute : Json → ShellM Json) (stage : Stage) : PipelineCall → ShellM Unit
  | .register command h => registerHook stage command h
  | .run name args output => runHooks execute stage (.string name) args output

/-- What a call adds to the hooks registered before it: the hook itself under a proper key, or what is
registered by the hooks that are invoked. -/
def adds (known : HookPipeline) : PipelineCall → HookPipeline
  | .register command h =>
    match Demand.key command with
    | .error _ => []
    | .ok _ => [(command, h)]
  | .run name args output => additions args output (invoked args output (known.named name))

end PipelineCall

def afterCalls (execute : Json → ShellM Json) (stage : Stage) (s : Shell)
    (calls : List PipelineCall) : Shell :=
  calls.foldl (fun s c => (outcome (c.perform execute stage) s).2) s

def ledger (known : HookPipeline) (calls : List PipelineCall) : HookPipeline :=
  calls.foldl (fun known c => known ++ c.adds known) known

variable (execute : Json → ShellM Json)

/-! ### One hook, one run -/

theorem outcome_inShell {α : Type} (x : ShellM α) (lists : Lists) (s : Shell) :
    outcome (inShell x) (lists, s) = ((outcome x s).1, (lists, (outcome x s).2)) := rfl

theorem outcome_listAt {lists : Lists} {address : Nat} {args : List Json}
    (h : lists[address]? = some args) (s : Shell) :
    outcome (listAt address) (lists, s) = (.ok args, (lists, s)) := by
  rw [listAt, outcome_bind, outcome_get]
  simp [h]

theorem outcome_copyList {lists : Lists} {address : Nat} {args : List Json}
    (h : lists[address]? = some args) (s : Shell) :
    outcome (copyList address) (lists, s) = (.ok lists.length, (lists ++ [args], s)) := by
  rw [copyList, outcome_bind_ok (outcome_listAt h s)]
  rfl

theorem outcome_runActionsAt {actions : List HookAction} (h : ∀ a ∈ actions, a.Contained)
    (stage : Stage) (id : Json) (output : Option Json) (lists : Lists) (own : List Json) (s : Shell) :
    outcome (runActionsAt execute stage id output lists.length actions) (lists ++ [own], s) =
      ((Hook.runActions id output own actions).result,
        (lists ++ [(Hook.runActions id output own actions).own],
          s.grown stage ((Hook.runActions id output own actions).entries.map .logged)
            (Hook.runActions id output own actions).registered)) := by
  induction actions generalizing own s with
  | nil => simp [runActionsAt, Hook.runActions]
  | cons action rest ih =>
    have hrest := ih fun a ha => h a (List.mem_cons_of_mem action ha)
    have hown : (lists ++ [own])[lists.length]? = some own := by simp
    cases action with
    | log =>
      rw [runActionsAt, outcome_bind_ok (outcome_listAt hown s), outcome_bind, outcome_inShell,
        outcome_record stage]
      simp only [hrest, grown_grown]
      rfl
    | change f =>
      have hchanged : (lists ++ [own]).modify lists.length f = lists ++ [f own] := by
        simp [List.modify_eq_take_drop]
      rw [runActionsAt, outcome_bind, outcome_modify]
      simp only [hchanged]
      exact hrest (f own) s
    | fail f => simp [runActionsAt, Hook.runActions]
    | register command other actions =>
      rw [runActionsAt, outcome_bind, outcome_inShell, outcome_registerHook, Hook.runActions]
      cases Demand.key command with
      | error f => simp
      | ok _ => simp only [hrest, grown_grown, List.nil_append, List.singleton_append]
    | execute line => cases h _ List.mem_cons_self

theorem getElem?_append_of_eq_some {lists : Lists} {address : Nat} {args : List Json}
    (h : lists[address]? = some args) (added : Lists) : (lists ++ added)[address]? = some args := by
  obtain ⟨hlt, -⟩ := List.getElem?_eq_some_iff.mp h
  rw [List.getElem?_append_left hlt, h]

theorem outcome_runEachAt {hooks : List Hook} (h : ∀ g ∈ hooks, g.Contained) (stage : Stage)
    (name : Text) {lists : Lists} {address : Nat} {args : List Json}
    (hargs : lists[address]? = some args) (output : Option Json) (s : Shell) :
    outcome (runEachAt execute stage (.string name) address output hooks) (lists, s) =
      (firstFailure args output hooks,
        (lists ++ (invoked args output hooks).map fun g => (g.run args output).own,
          s.grown stage ((invoked args output hooks).flatMap (steps stage name args output))
            (additions args output (invoked args output hooks)))) := by
  induction hooks generalizing lists s with
  | nil => simp [runEachAt, invoked, additions]
  | cons g rest ih =>
    have hcontained : ∀ other ∈ rest, other.Contained :=
      fun other hother => h other (List.mem_cons_of_mem g hother)
    have hrun := outcome_runActionsAt execute (h g List.mem_cons_self) stage g.id output lists args
    have hcopy : (lists ++ [args])[lists.length]? = some args := by simp
    rw [runEachAt, outcome_bind_ok (outcome_copyList hargs s), outcome_bind_ok (outcome_listAt hcopy s),
      outcome_bind, outcome_inShell, outcome_record stage]
    simp only [outcome_bind, hrun, grown_grown]
    rw [← Hook.run, firstFailure_cons, invoked]
    cases hresult : (g.run args output).result with
    | error f => simp [additions, steps]
    | ok u =>
      simp only [ih hcontained (getElem?_append_of_eq_some hargs _), grown_grown]
      simp [additions, steps]

theorem outcome_runHooksAt {stage : Stage} {s : Shell} (hs : (s.hooksAt stage).Contained)
    (name : Text) {lists : Lists} {address : Nat} {args : List Json}
    (hargs : lists[address]? = some args) (output : Option Json) :
    outcome (runHooksAt execute stage (.string name) address output) (lists, s) =
      ((outcome (runHooks execute stage (.string name) args output) s).1,
        (lists ++ (invoked args output ((s.hooksAt stage).named name)).map
            fun g => (g.run args output).own,
          (outcome (runHooks execute stage (.string name) args output) s).2)) := by
  rw [outcome_runHooks execute hs, runHooksAt, outcome_bind, outcome_get]
  simp only [HookPipeline.hooksFor_string]
  exact outcome_runEachAt execute (hs.named name) stage name hargs output s

/-! ### Calls on a pipeline -/

variable {stage : Stage}

theorem PipelineCall.contained_adds {known : HookPipeline} {c : PipelineCall} (hc : c.Contained)
    (hknown : known.Contained) : (c.adds known).Contained := by
  cases c with
  | register command h =>
    rw [PipelineCall.adds]
    cases Demand.key command with
    | error f => exact HookPipeline.contained_nil
    | ok _ =>
      intro entry hentry
      obtain rfl := List.mem_singleton.mp hentry
      exact hc
  | run name args output =>
    intro entry hentry
    obtain ⟨h, hinvoked, hentry⟩ := List.mem_flatMap.mp hentry
    have hcontained := hknown.named name h ((invoked_isPrefix args output _).subset hinvoked)
    exact contained_runActions hcontained h.id output args entry hentry

theorem PipelineCall.hooksAt_perform {s : Shell} (hs : (s.hooksAt stage).Contained)
    (c : PipelineCall) :
    (outcome (c.perform execute stage) s).2.hooksAt stage =
      s.hooksAt stage ++ c.adds (s.hooksAt stage) := by
  cases c with
  | register command h =>
    rw [PipelineCall.perform, outcome_registerHook, PipelineCall.adds]
    cases Demand.key command with
    | error f => simp
    | ok _ => simp
  | run name args output =>
    rw [PipelineCall.perform, outcome_runHooks execute hs, hooksAt_grown]
    rfl

theorem hooksAt_afterCalls {s : Shell} (hs : (s.hooksAt stage).Contained) {calls : List PipelineCall}
    (hcalls : ∀ c ∈ calls, c.Contained) :
    (afterCalls execute stage s calls).hooksAt stage = ledger (s.hooksAt stage) calls ∧
      ((afterCalls execute stage s calls).hooksAt stage).Contained := by
  induction calls generalizing s with
  | nil => exact ⟨rfl, hs⟩
  | cons c calls ih =>
    have hstep := PipelineCall.hooksAt_perform execute hs c
    have hcontained : ((outcome (c.perform execute stage) s).2.hooksAt stage).Contained := by
      rw [hstep]
      exact hs.append (PipelineCall.contained_adds (hcalls c List.mem_cons_self) hs)
    obtain ⟨hlater, hkept⟩ := ih hcontained fun d hd => hcalls d (List.mem_cons_of_mem c hd)
    refine ⟨?_, hkept⟩
    rw [hstep] at hlater
    exact hlater

/-- Let hooks be registered on a pipeline and run, and let those that are run register more. Then a run of a
name invokes the hooks that have been registered for exactly this name until it begins, one after another and
in the order of registration: all of them, or those up to the first that fails, whose failure is that of the
run. Each starts with the arguments, on a new list that equals that of the host, and every list that was there
is as it was. What is registered in a run comes behind what was registered before it, for later runs. -/
theorem runs_take_registered_hooks {s : Shell} (hs : (s.hooksAt stage).Contained)
    {earlier : List PipelineCall} (hearlier : ∀ c ∈ earlier, c.Contained) (name : Text)
    {lists : Lists} {address : Nat} {args : List Json} (hargs : lists[address]? = some args)
    (output : Option Json) :
    let t := afterCalls execute stage s earlier
    let known := ledger (s.hooksAt stage) earlier
    let started := invoked args output (known.named name)
    let u := t.grown stage (started.flatMap (steps stage name args output))
      (additions args output started)
    t.hooksAt stage = known ∧
    outcome (runHooks execute stage (.string name) args output) t =
      (firstFailure args output (known.named name), u) ∧
    outcome (runHooksAt execute stage (.string name) address output) (lists, t) =
      (firstFailure args output (known.named name),
        (lists ++ started.map fun h => (h.run args output).own, u)) ∧
    ((firstFailure args output (known.named name) = .ok () ∧ started = known.named name ∧
        ∀ h ∈ known.named name, (h.run args output).result = .ok ()) ∨
      ∃ front h rest f, known.named name = front ++ h :: rest ∧ started = front ++ [h] ∧
        (∀ g ∈ front, (g.run args output).result = .ok ()) ∧ (h.run args output).result = .error f ∧
        firstFailure args output (known.named name) = .error f) ∧
    u = afterCalls execute stage s (earlier ++ [.run name args output]) ∧
    ∀ other, (u.hooksAt stage).named other =
      known.named other ++ (additions args output started).named other := by
  intro t known started u
  obtain ⟨hknown, hcontained⟩ := hooksAt_afterCalls execute hs hearlier
  have hrun : outcome (runHooks execute stage (.string name) args output) t =
      (firstFailure args output (known.named name), u) := by
    rw [outcome_runHooks execute hcontained, hknown]
  have hrunAt := outcome_runHooksAt execute hcontained name hargs output
  rw [hrun, hknown] at hrunAt
  refine ⟨hknown, hrun, hrunAt, invoked_cases args output _, ?_, fun other => ?_⟩
  · rw [afterCalls, List.foldl_append]
    exact (congrArg Prod.snd hrun).symm
  · have hhooks : u.hooksAt stage = known ++ additions args output started := by
      rw [hooksAt_grown, hknown]
    rw [hhooks, HookPipeline.named_append]

/-- A hook changes its list and registers another one for its own command, and the next one fails. The third
is not invoked, nor is the new one, which comes behind it for later runs; the lists of the host stay. -/
theorem runs_take_registered_hooks_self_registering :
    let echo := Text.ofString "echo"
    let late : Hook := ⟨.ofString "late", [.log]⟩
    let first : Hook := ⟨.ofString "first", [.append (.ofString "x"), .log,
      .register (.string echo) late.id late.actions]⟩
    let second : Hook := ⟨.ofString "second", [.fail (.raised .value (some (.ofString "blocked")))]⟩
    let third : Hook := ⟨.ofString "third", [.log]⟩
    let a := Json.ofString "a"
    let lists : Lists := [[], [a]]
    ∃ start, build 0 .usual builtins = .ok start ∧
      let t := afterCalls Shell.execute .before start [.register (.string echo) first,
        .register (.ofString "cat") third, .register (.string echo) second,
        .register (.string echo) third]
      let r := outcome (runHooksAt Shell.execute .before (.string echo) 1 none) (lists, t)
      r.1 = .error (.raised .value (some (.ofString "blocked"))) ∧
        r.2.1 = lists ++ [[a, .ofString "x"], [a]] ∧
        r.2.2.trace = [.hookStarted .before (.string echo) first.id [a],
          .logged (.args first.id [a, .ofString "x"]),
          .hookStarted .before (.string echo) second.id [a]] ∧
        (r.2.2.hooksAt .before).named echo = [first, second, third, late] := by
  intro echo late first second third a lists
  obtain ⟨start, hstart⟩ : ∃ start, build 0 .usual builtins = .ok start := ⟨_, rfl⟩
  refine ⟨start, hstart, ?_⟩
  have hnew : start.hooksAt .before = [] ∧ start.trace = [] := by
    obtain rfl := Except.ok.inj hstart
    exact ⟨rfl, rfl⟩
  have hlog : ∀ id : Json, Hook.Contained ⟨id, [.log]⟩ := by
    intro id action haction
    obtain rfl := List.mem_singleton.mp haction
    exact .log
  have hfirst : first.Contained := by
    intro action haction
    simp only [first, List.mem_cons, List.not_mem_nil, or_false] at haction
    rcases haction with rfl | rfl | rfl
    · exact .change _
    · exact .log
    · exact .register _ _ (hlog late.id)
  have hsecond : second.Contained := by
    intro action haction
    obtain rfl := List.mem_singleton.mp haction
    exact .fail _
  let earlier : List PipelineCall := [.register (.string echo) first,
    .register (.ofString "cat") third, .register (.string echo) second, .register (.string echo) third]
  have hcalls : ∀ c ∈ earlier, c.Contained := by
    intro c hc
    simp only [earlier, List.mem_cons, List.not_mem_nil, or_false] at hc
    rcases hc with rfl | rfl | rfl | rfl
    · exact hfirst
    · exact hlog third.id
    · exact hsecond
    · exact hlog third.id
  have hempty : (start.hooksAt .before).Contained := by
    rw [hnew.1]
    exact HookPipeline.contained_nil
  have hargs : lists[1]? = some [a] := rfl
  obtain ⟨-, -, hrun, -, -, hlater⟩ :=
    runs_take_registered_hooks Shell.execute hempty hcalls echo hargs none
  intro t r
  have hother : Text.ofString "cat" ≠ echo := by decide +kernel
  have hknown : (ledger (start.hooksAt .before) earlier).named echo = [first, second, third] := by
    have hledger : ledger [] earlier = [(.string echo, first), (.ofString "cat", third),
        (.string echo, second), (.string echo, third)] := rfl
    rw [hnew.1, hledger]
    simp [HookPipeline.named, Json.ofString, hother]
  have hinvoked : invoked [a] none [first, second, third] = [first, second] := rfl
  have hadded : additions [a] none [first, second] = [(.string echo, late)] := rfl
  have htrace : t.trace = [] := hnew.2
  rw [hknown, hinvoked, hadded] at hrun
  have hr : r = _ := hrun
  refine ⟨?_, ?_, ?_, ?_⟩
  · rw [hr]
    rfl
  · rw [hr]
    rfl
  · rw [hr]
    change t.trace ++ _ = _
    rw [htrace]
    rfl
  · have hnamed := hlater echo
    rw [hknown, hinvoked, hadded] at hnamed
    rw [hr, hnamed]
    simp [HookPipeline.named]

/-! ### A whole line

Here hooks may execute lines too, and the body may do anything with the list that it is given. -/

/-- Runs a command between its hooks, on a list of the host. The body has a copy of its own, which it changes
as it likes. -/
def runStagesAt (execute : Json → ShellM Json) (tokens : Tokens) (command : Command)
    (change : List Json → List Json) (address : Nat) : InPlaceM Outcome := do
  runHooksAt execute .before (.string tokens.name) address none
  let copy ← copyList address
  let args ← listAt copy
  modify fun state => (state.1.modify copy change, state.2)
  inShell (record (.bodyStarted tokens.name (args.filterMap Json.text?)))
  let outcome ← inShell (Commands.invoke execute command (args.filterMap Json.text?))
  match outcome with
  | .refused kind message => pure (.refused kind message)
  | .output output =>
    runHooksAt execute .after (.string tokens.name) address (some output)
    pure (.output output)

def dispatchAt (execute : Json → ShellM Json) (tokens : Tokens) (redirection : Option Redirection)
    (command : Command) (change : List Json → List Json) (address : Nat) : InPlaceM Json := do
  match ← attempt (runStagesAt execute tokens command change address) with
  | .error f => inShell (complain (Message.orUnknown f.message))
  | .ok (.refused _ message) => inShell (complain (Message.orUnknown message))
  | .ok (.output output) => inShell (handOver tokens output redirection)

/-- What is done beside lists comes to what is done without them and only adds lists, where a list of the
host is at this address. -/
def Accompanies (address : Nat) (args : List Json) {α : Type} (x : InPlaceM α) (y : ShellM α) : Prop :=
  ∀ (lists : Lists) (s : Shell), lists[address]? = some args →
    ∃ added, outcome x (lists, s) = ((outcome y s).1, (lists ++ added, (outcome y s).2))

theorem exists_outcome_runActionsAt (stage : Stage) (id : Json) (output : Option Json)
    (actions : List HookAction) (lists : Lists) (own : List Json) (s : Shell) :
    ∃ left, outcome (runActionsAt execute stage id output lists.length actions) (lists ++ [own], s) =
      ((outcome (runActions execute stage id output own actions) s).1,
        (lists ++ [left], (outcome (runActions execute stage id output own actions) s).2)) := by
  induction actions generalizing own s with
  | nil => exact ⟨own, rfl⟩
  | cons action rest ih =>
    have hown : (lists ++ [own])[lists.length]? = some own := by simp
    cases action with
    | log =>
      rw [runActionsAt, runActions, outcome_bind_ok (outcome_listAt hown s)]
      exact ih own _
    | change f =>
      have hchanged : (lists ++ [own]).modify lists.length f = lists ++ [f own] := by
        simp [List.modify_eq_take_drop]
      rw [runActionsAt, runActions, outcome_bind, outcome_modify]
      simp only [hchanged]
      exact ih (f own) s
    | fail f => exact ⟨own, rfl⟩
    | register command other actions =>
      rw [runActionsAt, runActions, outcome_bind, outcome_inShell, outcome_bind]
      rcases outcome (registerHook stage command ⟨other, actions⟩) s with ⟨f | ⟨⟩, t⟩
      · exact ⟨own, rfl⟩
      · exact ih own t
    | execute line =>
      rw [runActionsAt, runActions, outcome_bind, outcome_inShell, outcome_bind]
      rcases outcome (execute line) s with ⟨f | result, t⟩
      · exact ⟨own, rfl⟩
      · exact ih own _

namespace Accompanies

variable {address : Nat} {args : List Json} {α β : Type}

theorem pure (a : α) : Accompanies address args (Pure.pure a) (Pure.pure a) :=
  fun lists s _ => ⟨[], by rw [outcome_pure, outcome_pure, List.append_nil]⟩

theorem inShell (y : ShellM α) : Accompanies address args (Shell.inShell y) y := by
  intro lists s _
  exact ⟨[], by rw [outcome_inShell, List.append_nil]⟩

theorem bind {x : InPlaceM α} {y : ShellM α} {f : α → InPlaceM β} {g : α → ShellM β}
    (h : Accompanies address args x y) (hrest : ∀ a, Accompanies address args (f a) (g a)) :
    Accompanies address args (x >>= f) (y >>= g) := by
  intro lists s hargs
  obtain ⟨added, hx⟩ := h lists s hargs
  rw [outcome_bind, hx, outcome_bind]
  rcases outcome y s with ⟨e | a, t⟩
  · exact ⟨added, rfl⟩
  · obtain ⟨more, hf⟩ := hrest a (lists ++ added) t (getElem?_append_of_eq_some hargs added)
    exact ⟨added ++ more, by rw [← List.append_assoc]; exact hf⟩

theorem attempt {x : InPlaceM α} {y : ShellM α} (h : Accompanies address args x y) :
    Accompanies address args (MemoryShell.attempt x) (MemoryShell.attempt y) := by
  intro lists s hargs
  obtain ⟨added, hx⟩ := h lists s hargs
  exact ⟨added, by rw [outcome_attempt, outcome_attempt, hx]⟩

theorem runEachAt (stage : Stage) (command : Json) (output : Option Json) (hooks : List Hook) :
    Accompanies address args (Shell.runEachAt execute stage command address output hooks)
      (runEach execute stage command args output hooks) := by
  induction hooks with
  | nil => exact fun lists s _ => ⟨[], by rw [List.append_nil]; rfl⟩
  | cons h rest ih =>
    intro lists s hargs
    have hcopy : (lists ++ [args])[lists.length]? = some args := by simp
    rw [Shell.runEachAt, outcome_bind_ok (outcome_copyList hargs s),
      outcome_bind_ok (outcome_listAt hcopy s), runEach, outcome_bind, outcome_inShell, outcome_bind]
    rcases outcome (record (.hookStarted stage command h.id args)) s with ⟨e | ⟨⟩, t⟩
    · exact ⟨[args], rfl⟩
    · obtain ⟨left, hactions⟩ :=
        exists_outcome_runActionsAt execute stage h.id output h.actions lists args t
      simp only [outcome_bind, hactions]
      rcases outcome (runActions execute stage h.id output args h.actions) t with ⟨e | ⟨⟩, u⟩
      · exact ⟨[left], rfl⟩
      · obtain ⟨more, hrest⟩ := ih (lists ++ [left]) u (getElem?_append_of_eq_some hargs _)
        exact ⟨left :: more, by rw [List.append_cons lists left more]; exact hrest⟩

theorem runHooksAt (stage : Stage) (command : Json) (output : Option Json) :
    Accompanies address args (Shell.runHooksAt execute stage command address output)
      (runHooks execute stage command args output) := by
  intro lists s hargs
  exact runEachAt execute stage command output _ lists s hargs

/-- What is done with a copy of the host's list, which is changed at once. -/
theorem onCopy (change : List Json → List Json) {k : List Json → InPlaceM α} {y : ShellM α}
    (h : Accompanies address args (k args) y) :
    Accompanies address args
      (copyList address >>= fun copy => listAt copy >>= fun own =>
        modify (fun state => (state.1.modify copy change, state.2)) >>= fun _ => k own) y := by
  intro lists s hargs
  have hcopy : (lists ++ [args])[lists.length]? = some args := by simp
  have hchanged : (lists ++ [args]).modify lists.length change = lists ++ [change args] := by
    simp [List.modify_eq_take_drop]
  obtain ⟨added, hk⟩ := h (lists ++ [change args]) s (getElem?_append_of_eq_some hargs _)
  rw [outcome_bind_ok (outcome_copyList hargs s), outcome_bind_ok (outcome_listAt hcopy s),
    outcome_bind, outcome_modify]
  simp only [hchanged]
  exact ⟨change args :: added, by rw [List.append_cons lists (change args) added]; exact hk⟩

theorem runStagesAt (tokens : Tokens) (command : Command) (change : List Json → List Json) :
    Accompanies address (tokens.args.map Json.string)
      (Shell.runStagesAt execute tokens command change address) (runStages execute tokens command) := by
  have htexts : (tokens.args.map Json.string).filterMap Json.text? = tokens.args := by
    rw [List.filterMap_map]
    exact List.filterMap_some
  refine (runHooksAt execute _ _ _).bind fun _ => onCopy change ?_
  rw [htexts]
  refine (inShell _).bind fun _ => (inShell _).bind fun outcome => ?_
  cases outcome with
  | refused kind message => exact pure _
  | output output => exact (runHooksAt execute _ _ _).bind fun _ => pure _

end Accompanies

/-- Let the arguments of a line be a list of the host. Whatever hooks and the body do with the lists that
they are given, the line comes to what it comes to on equal lists, and every list that was there is as it
was. -/
theorem exists_outcome_dispatchAt (tokens : Tokens) (redirection : Option Redirection)
    (command : Command) (change : List Json → List Json) {lists : Lists} {address : Nat}
    (hargs : lists[address]? = some (tokens.args.map Json.string)) (s : Shell) :
    ∃ added, outcome (dispatchAt execute tokens redirection command change address) (lists, s) =
      ((outcome (dispatch execute tokens redirection command) s).1,
        (lists ++ added, (outcome (dispatch execute tokens redirection command) s).2)) := by
  refine (Accompanies.attempt (Accompanies.runStagesAt execute tokens command change)).bind ?_ lists s hargs
  intro result
  match result with
  | .error _ => exact .inShell _
  | .ok (.refused _ _) => exact .inShell _
  | .ok (.output _) => exact .inShell _

end Shell

end MemoryShell
