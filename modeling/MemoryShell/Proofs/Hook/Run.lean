import MemoryShell.Proofs.Shell.Surroundings

set_option autoImplicit false

namespace MemoryShell

/-- An action that executes no line, and registers no hook that would. -/
inductive HookAction.Contained : HookAction → Prop
  | log : Contained .log
  | change (f : List Json → List Json) : Contained (.change f)
  | fail (f : Failure) : Contained (.fail f)
  | register (command id : Json) {actions : List HookAction} (h : ∀ a ∈ actions, Contained a) :
      Contained (.register command id actions)

/-- A hook that keeps to its pipeline. -/
def Hook.Contained (h : Hook) : Prop :=
  ∀ a ∈ h.actions, a.Contained

namespace HookPipeline

/-- A pipeline of hooks that keep to it. -/
def Contained (p : HookPipeline) : Prop :=
  ∀ entry ∈ p, entry.2.Contained

def named (name : Text) : HookPipeline → List Hook
  | [] => []
  | (.string t, h) :: rest => if t = name then h :: named name rest else named name rest
  | _ :: rest => named name rest

theorem hooksFor_string (p : HookPipeline) (name : Text) : p.hooksFor (.string name) = p.named name := by
  induction p with
  | nil => rfl
  | cons entry p ih =>
    obtain ⟨command, h⟩ := entry
    unfold hooksFor at ih ⊢
    cases command with
    | string t =>
      have hsame : Keyed.sameKey (.string t) (.string name) = decide (t = name) := rfl
      rw [List.filter_cons, hsame, named]
      by_cases ht : t = name
      · simp only [ht, decide_true, if_true, List.map_cons, ih]
      · simp only [ht, decide_false, Bool.false_eq_true, if_false, ih]
    | _ => exact ih

theorem named_append (p q : HookPipeline) (name : Text) :
    named name (p ++ q) = p.named name ++ q.named name := by
  induction p with
  | nil => rfl
  | cons entry p ih =>
    obtain ⟨command, h⟩ := entry
    cases command with
    | string t =>
      by_cases ht : t = name
      · simp only [List.cons_append, named, ht, if_true, ih]
      · simp only [List.cons_append, named, ht, if_false, ih]
    | _ => exact ih

theorem contained_nil : Contained [] :=
  fun _ hentry => absurd hentry List.not_mem_nil

theorem Contained.append {p q : HookPipeline} (hp : p.Contained) (hq : q.Contained) :
    Contained (p ++ q) := by
  intro entry hentry
  rcases List.mem_append.mp hentry with h | h
  · exact hp entry h
  · exact hq entry h

theorem Contained.named {p : HookPipeline} (hp : p.Contained) (name : Text) :
    ∀ h ∈ p.named name, h.Contained := by
  intro h hmem
  rw [← hooksFor_string] at hmem
  obtain ⟨entry, hentry, rfl⟩ := List.mem_map.mp hmem
  exact hp entry (List.mem_filter.mp hentry).1

end HookPipeline

namespace Hook

/-- What a hook comes to on a list of its own: the list in the end, the entries of the log, what it has
registered, and whether it has failed. -/
structure Run where
  own : List Json
  entries : List LogEntry
  registered : HookPipeline
  result : Except Failure Unit

def runActions (id : Json) (output : Option Json) : List Json → List HookAction → Run
  | args, [] => ⟨args, [], [], .ok ()⟩
  | args, .log :: rest =>
    let later := runActions id output args rest
    { later with entries := Shell.hookEntry id args output :: later.entries }
  | args, .change f :: rest => runActions id output (f args) rest
  | args, .fail f :: _ => ⟨args, [], [], .error f⟩
  | args, .register command other actions :: rest =>
    match Demand.key command with
    | .error f => ⟨args, [], [], .error (.fault f)⟩
    | .ok _ =>
      let later := runActions id output args rest
      { later with registered := (command, ⟨other, actions⟩) :: later.registered }
  | args, .execute _ :: rest => runActions id output args rest

def run (args : List Json) (output : Option Json) (h : Hook) : Run :=
  runActions h.id output args h.actions

def invoked (args : List Json) (output : Option Json) : List Hook → List Hook
  | [] => []
  | h :: rest =>
    match (h.run args output).result with
    | .ok _ => h :: invoked args output rest
    | .error _ => [h]

def firstFailure (args : List Json) (output : Option Json) (hooks : List Hook) :
    Except Failure Unit :=
  hooks.forM fun h => (h.run args output).result

def additions (args : List Json) (output : Option Json) (hooks : List Hook) : HookPipeline :=
  hooks.flatMap fun h => (h.run args output).registered

def steps (stage : Stage) (name : Text) (args : List Json) (output : Option Json) (h : Hook) :
    List Step :=
  .hookStarted stage (.string name) h.id args :: (h.run args output).entries.map .logged

variable {args : List Json} {output : Option Json}

theorem contained_runActions {actions : List HookAction} (h : ∀ a ∈ actions, a.Contained) (id : Json)
    (output : Option Json) (args : List Json) :
    (runActions id output args actions).registered.Contained := by
  induction actions generalizing args with
  | nil => exact HookPipeline.contained_nil
  | cons action rest ih =>
    have hrest : ∀ args, (runActions id output args rest).registered.Contained :=
      ih fun a ha => h a (List.mem_cons_of_mem action ha)
    cases action with
    | log => exact hrest args
    | change f => exact hrest (f args)
    | fail f => exact HookPipeline.contained_nil
    | register command other actions =>
      have hactions := h _ List.mem_cons_self
      unfold runActions
      split
      · exact HookPipeline.contained_nil
      · intro entry hentry
        rcases List.mem_cons.mp hentry with rfl | hentry
        · cases hactions with
          | register _ _ hcontained => exact hcontained
        · exact hrest args entry hentry
    | execute line => exact hrest args

@[simp] theorem firstFailure_nil (args : List Json) (output : Option Json) :
    firstFailure args output [] = .ok () := rfl

theorem firstFailure_cons (args : List Json) (output : Option Json) (h : Hook) (rest : List Hook) :
    firstFailure args output (h :: rest) =
      match (h.run args output).result with
      | .ok _ => firstFailure args output rest
      | .error f => .error f := by
  change ((h.run args output).result >>= fun _ => firstFailure args output rest) = _
  cases (h.run args output).result <;> rfl

theorem invoked_cases (args : List Json) (output : Option Json) (hooks : List Hook) :
    (firstFailure args output hooks = .ok () ∧ invoked args output hooks = hooks ∧
      ∀ h ∈ hooks, (h.run args output).result = .ok ()) ∨
    ∃ front h rest f, hooks = front ++ h :: rest ∧ invoked args output hooks = front ++ [h] ∧
      (∀ g ∈ front, (g.run args output).result = .ok ()) ∧ (h.run args output).result = .error f ∧
      firstFailure args output hooks = .error f := by
  induction hooks with
  | nil => exact .inl ⟨rfl, rfl, fun _ h => absurd h List.not_mem_nil⟩
  | cons h rest ih =>
    rw [firstFailure_cons, invoked]
    cases hresult : (h.run args output).result with
    | error f =>
      exact .inr ⟨[], h, rest, f, rfl, rfl, fun _ hg => absurd hg List.not_mem_nil, hresult, rfl⟩
    | ok u =>
      have hmore {g : Hook} {hooks : List Hook}
          (hall : ∀ g ∈ hooks, (g.run args output).result = .ok ()) (hg : g ∈ h :: hooks) :
          (g.run args output).result = .ok () := by
        rcases List.mem_cons.mp hg with rfl | hg
        · exact hresult
        · exact hall g hg
      rcases ih with ⟨hfirst, hinvoked, hall⟩ | ⟨front, g, more, f, rfl, hinvoked, hall, hg, hfirst⟩
      · exact .inl ⟨hfirst, congrArg (h :: ·) hinvoked, fun g hg => hmore hall hg⟩
      · exact .inr ⟨h :: front, g, more, f, rfl, congrArg (h :: ·) hinvoked,
          fun g hg => hmore hall hg, hg, hfirst⟩

theorem invoked_isPrefix (args : List Json) (output : Option Json) (hooks : List Hook) :
    invoked args output hooks <+: hooks := by
  rcases invoked_cases args output hooks with ⟨-, hall, -⟩ | ⟨front, h, rest, f, rfl, hinvoked, -⟩
  · exact ⟨[], by rw [hall, List.append_nil]⟩
  · exact ⟨rest, by rw [hinvoked, List.append_assoc, List.singleton_append]⟩

end Hook

namespace Shell

open Hook

def grown (stage : Stage) (more : List Step) (added : HookPipeline) (s : Shell) : Shell :=
  match stage with
  | .before => { s with trace := s.trace ++ more, hooksBefore := s.hooksBefore ++ added }
  | .after => { s with trace := s.trace ++ more, hooksAfter := s.hooksAfter ++ added }

variable {stage : Stage}

@[simp] theorem hooksAt_grown (stage : Stage) (more : List Step) (added : HookPipeline) (s : Shell) :
    (s.grown stage more added).hooksAt stage = s.hooksAt stage ++ added := by
  cases stage <;> rfl

@[simp] theorem grown_nil (stage : Stage) (s : Shell) : s.grown stage [] [] = s := by
  cases stage <;> simp [grown]

theorem grown_grown (stage : Stage) (first later : List Step) (p q : HookPipeline) (s : Shell) :
    (s.grown stage first p).grown stage later q = s.grown stage (first ++ later) (p ++ q) := by
  cases stage <;> simp [grown]

theorem outcome_record (stage : Stage) (st : Step) (s : Shell) :
    outcome (record st) s = (.ok (), s.grown stage [st] []) := by
  cases stage <;> simp [record, grown]

theorem outcome_registerHook (stage : Stage) (command : Json) (h : Hook) (s : Shell) :
    outcome (registerHook stage command h) s =
      match Demand.key command with
      | .error f => (.error (.fault f), s)
      | .ok _ => (.ok (), s.grown stage [] [(command, h)]) := by
  unfold registerHook
  cases Demand.key command with
  | error f => rfl
  | ok _ => cases stage <;> simp [grown, HookPipeline.register]

variable (execute : Json → ShellM Json)

theorem outcome_runActions {actions : List HookAction} (h : ∀ a ∈ actions, a.Contained)
    (stage : Stage) (id : Json) (output : Option Json) (args : List Json) (s : Shell) :
    outcome (Shell.runActions execute stage id output args actions) s =
      ((Hook.runActions id output args actions).result,
        s.grown stage ((Hook.runActions id output args actions).entries.map .logged)
          (Hook.runActions id output args actions).registered) := by
  induction actions generalizing args s with
  | nil => simp [Shell.runActions, Hook.runActions]
  | cons action rest ih =>
    have hrest := ih fun a ha => h a (List.mem_cons_of_mem action ha)
    cases action with
    | log =>
      rw [Shell.runActions, outcome_bind_ok (outcome_record stage _ s), hrest, grown_grown]
      rfl
    | change f => exact hrest (f args) s
    | fail f => simp [Shell.runActions, Hook.runActions]
    | register command other actions =>
      rw [Shell.runActions, outcome_bind, outcome_registerHook, Hook.runActions]
      cases Demand.key command with
      | error f => simp
      | ok _ => simp only [hrest, grown_grown, List.nil_append, List.singleton_append]
    | execute line => cases h _ List.mem_cons_self

theorem outcome_runEach {hooks : List Hook} (h : ∀ g ∈ hooks, g.Contained) (stage : Stage)
    (name : Text) (args : List Json) (output : Option Json) (s : Shell) :
    outcome (runEach execute stage (.string name) args output hooks) s =
      (firstFailure args output hooks,
        s.grown stage ((invoked args output hooks).flatMap (steps stage name args output))
          (additions args output (invoked args output hooks))) := by
  induction hooks generalizing s with
  | nil => simp [runEach, invoked, additions]
  | cons g rest ih =>
    have hrest := ih fun other hother => h other (List.mem_cons_of_mem g hother)
    have hrun := outcome_runActions execute (h g List.mem_cons_self) stage g.id output args
    rw [runEach, outcome_bind_ok (outcome_record stage _ s), outcome_bind, hrun, grown_grown,
      ← Hook.run]
    rw [firstFailure_cons, invoked]
    cases hresult : (g.run args output).result with
    | error f => simp [additions, steps]
    | ok u =>
      simp only [hrest, grown_grown]
      simp [additions, steps]

theorem outcome_runHooks {s : Shell} (hs : (s.hooksAt stage).Contained) (name : Text)
    (args : List Json) (output : Option Json) :
    outcome (runHooks execute stage (.string name) args output) s =
      (firstFailure args output ((s.hooksAt stage).named name),
        s.grown stage
          ((invoked args output ((s.hooksAt stage).named name)).flatMap (steps stage name args output))
          (additions args output (invoked args output ((s.hooksAt stage).named name)))) := by
  rw [runHooks, outcome_bind, outcome_get]
  simp only [HookPipeline.hooksFor_string]
  exact outcome_runEach execute (hs.named name) stage name args output s

end Shell

end MemoryShell
