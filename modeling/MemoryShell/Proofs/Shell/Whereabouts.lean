import MemoryShell.Proofs.Command.Removal
import MemoryShell.Proofs.Shell.Preserving
import MemoryShell.Proofs.Shell.Restoring

/-!
Where a shell works. Its directory is always absolute, so that every spelling can be seen from it. Only
moving changes it, whoever asks for that: then it is the path that was asked for, at which there is a
directory at that moment. Whether that directory is there later on is nobody's concern.
-/

set_option autoImplicit false

namespace MemoryShell.Shell

open Commands

variable {registry : Registry Command}

/-- An invariant that nothing breaks of what happens while a line is executed, as long as the command that
moves does not break it either. -/
structure Resting (registry : Registry Command) (I : Shell → Prop) : Prop where
  offers : ∀ {s}, I s → s.registry = registry
  changed : ∀ {s}, I s → ∀ {v}, Since s.volume v → I { s with volume := v }
  noted : ∀ {s}, I s → ∀ st, I (noted st s)
  heard : ∀ {s}, I s → ∀ ls, I { s with listeners := ls }
  hooked : ∀ {s}, I s → ∀ before after, I { s with hooksBefore := before, hooksAfter := after }
  counted : ∀ {s}, I s → ∀ n, I { s with activeIsolates := n }
  moved : ∀ {s name}, I s → registry.called? name = some (.builtin .cd) → ∀ args,
    I (outcome (cd args) (Shell.noted (.bodyStarted name args) s)).2

namespace Resting

variable {I : Shell → Prop} (hI : Resting registry I)

include hI

theorem keeps_record (st : Step) : Keeps I (fun _ => True) (record st) :=
  Keeps.modify fun _ hs => hI.noted hs st

theorem surrounded : Surrounded (fun _ => True) fun s t => s = t ∧ I s :=
  surrounded_self (fun hs st _ => hI.noted hs st) hI.heard hI.hooked

theorem keeps_emit (c : Channel) (message : Json) : Keeps I (fun _ => True) (emit c message) :=
  (Keeps.of_coupled ((hI.surrounded.emit (fun _ => trivial) c message).mono
    fun _ _ ⟨ha, hb⟩ => ⟨ha.trans hb.symm, trivial⟩)).mono fun _ _ => trivial

theorem keeps_changes {α : Type} {op : Int → VolumeM α}
    (h : ∀ now v, Since v (outcome (op now) v).2) : Keeps I (fun _ => True) (onVolume op) :=
  keeps_onVolume fun hs => hI.changed hs (h _ _)

theorem withstands {b : Builtin} (hb : b ≠ .cd) : Withstands b I where
  entered hcd := absurd hcd hb
  done {s op} hs _ := hI.changed hs (since_perform op s.clock s.volume .refl)

theorem keeps_redirect (output operator target command : Text) :
    Keeps I (fun _ => True) (redirect output operator target command) := by
  refine (keeps_resolve _).bind fun p _ => (keeps_isWritable p).bind fun writable _ => ?_
  split
  · exact hI.keeps_emit _ _
  · split
    · exact hI.keeps_emit _ _
    · have hwrite : Keeps I (fun _ => True) (onVolume fun now =>
          Volume.writeText now (writeMode ‹_›) p.text (output ++ "\n")) := by
        refine hI.keeps_changes fun now v => ?_
        exact Volume.changes_writeText (Volume.namesAllowed_text fun _ _ => trivial) now _ _ v
      refine hwrite.attempt.bind fun r _ => ?_
      split
      · exact (hI.keeps_record _).bind fun _ _ => hI.keeps_emit _ _
      · exact hI.keeps_emit _ _
      · exact Keeps.throw _

section

variable {execute : Json → ShellM Json} (hexecute : ∀ line, Keeps I (fun _ => True) (execute line))

include hexecute

theorem keeps_body {name : Text} {command : Command}
    (hknown : registry.called? name = some command) (args : List Text) :
    Keeps I (fun _ => True) (do
      record (.bodyStarted name args)
      invoke execute command args) := by
  by_cases hcd : command = .builtin .cd
  · subst hcd
    exact fun s hs => ⟨fun _ _ => trivial, hI.moved hs hknown args⟩
  · refine (hI.keeps_record _).bind fun _ _ => Keeps.get.bind fun s _ => ?_
    cases command with
    | builtin b => exact (hI.withstands fun hb => hcd (by rw [hb])).keeps_runBuiltin args
    | say output => exact Keeps.pure trivial
    | refuse kind message => exact Keeps.pure trivial
    | fail f => exact Keeps.throw f
    | user => exact Keeps.pure trivial
    | resolve => exact (Keeps.mapM (fun a => keeps_resolve _) args).bind fun _ _ => Keeps.pure trivial
    | searchPaths =>
      dsimp only
      split
      · exact Keeps.pure trivial
      · exact Keeps.throw _
    | names => exact Keeps.get.bind fun _ _ => Keeps.pure trivial
    | environment => exact Keeps.pure trivial
    | arguments => exact Keeps.pure trivial
    | evaluate =>
      refine (Keeps.mapM (fun a => hexecute (.string a)) args).bind fun results _ => ?_
      split
      · exact Keeps.pure trivial
      · exact Keeps.throw _
    | script call =>
      have hcount : ∀ change, Keeps I (fun _ => True) (countIsolate change) :=
        fun _ => Keeps.modify fun _ hs => hI.counted hs _
      have hserve : ∀ limits, Keeps I (fun _ => True) (serve call.process limits) := fun limits =>
        Keeps.get.bind fun s _ => hI.keeps_changes fun now v =>
          Isolate.since_serve s.directory now limits.timeoutMs call.process.exitCode false
            call.process.events v .refl
      exact (keeps_runIsolate (fun _ => hI.keeps_record _) hcount hserve _).bind fun _ _ =>
        Keeps.pure trivial

theorem keeps_runHooks (stage : Stage) (command : Json) (args : List Json) (output : Option Json) :
    Keeps I (fun _ => True) (runHooks execute stage command args output) :=
  Keeps.of_coupled_eq (hI.surrounded.runHooks (fun _ => trivial)
    (fun line => (hexecute line).coupled fun _ _ => rfl) (fun _ _ _ _ => trivial)
    stage command args output)

theorem keeps_executeWith (line : Json) : Keeps I (fun _ => True) (executeWith execute line) := by
  intro s hs
  rw [outcome_executeWith]
  cases he : errand s.registry line with
  | error message => exact hI.keeps_emit _ _ s hs
  | ok e =>
    have hknown : registry.called? e.tokens.name = some e.command :=
      hI.offers hs ▸ (resolves_of_errand he).known
    have hstages : Keeps I (fun _ => True) (runStages execute e.tokens e.command) := by
      refine (hI.keeps_runHooks hexecute _ _ _ _).bind fun _ _ => ?_
      rw [← bind_assoc]
      refine (hI.keeps_body hexecute hknown e.tokens.args).bind fun o _ => ?_
      split
      · exact Keeps.pure trivial
      · exact (hI.keeps_runHooks hexecute _ _ _ _).bind fun _ _ => Keeps.pure trivial
    have hdispatch : Keeps I (fun _ => True) (dispatch execute e.tokens e.redirection e.command) := by
      refine hstages.attempt.bind fun r _ => ?_
      split
      · exact hI.keeps_emit _ _
      · exact hI.keeps_emit _ _
      · unfold handOver
        split
        · exact hI.keeps_redirect _ _ _ _
        · exact hI.keeps_emit _ _
    exact hdispatch s hs

end

theorem keeps_executeWithin (depth : Nat) (line : Json) :
    Keeps I (fun _ => True) (executeWithin depth line) := by
  -- a hook or a command may execute any line, but one level deeper
  induction depth generalizing line with
  | zero => exact Keeps.throw _
  | succ depth ih => exact hI.keeps_executeWith ih line

end Resting

/-- A spelling leads to a directory, seen from where the shell works. -/
def LeadsTo (s : Shell) (spelling : Text) (p : Path) : Prop :=
  Path.resolve? s.directory spelling = some p ∧ s.volume.released = false ∧
    ∃ mode, s.volume.root.entry p = some (.directory mode)

theorem changeDirectory_cases (spelling : Text) (s : Shell) :
    (∃ p, LeadsTo s spelling p ∧
        outcome (changeDirectory spelling) s = (.ok p, { s with directory := p.text })) ∨
      (∀ p, ¬ LeadsTo s spelling p) ∧ ∃ f, outcome (changeDirectory spelling) s = (.error f, s) := by
  unfold changeDirectory
  cases hp : Path.resolve? s.directory spelling with
  | none =>
    obtain ⟨f, hfails⟩ := exists_failure_of_resolve?_eq_none hp
    exact .inr ⟨fun p h => (by cases hp.symm.trans h.1), f, outcome_bind_error hfails _⟩
  | some p =>
    have honly : ∀ {q}, LeadsTo s spelling q → q = p := fun h => Option.some.inj (h.1.symm.trans hp)
    rw [outcome_bind_ok (outcome_resolve_of_eq_some hp), outcome_bind, outcome_attempt]
    cases hreleased : s.volume.released with
    | true =>
      rw [outcome_stat_released hreleased]
      exact .inr ⟨fun q h => (by cases hreleased.symm.trans h.2.1), _, rfl⟩
    | false =>
      rw [outcome_stat_open hreleased]
      cases hw : s.volume.root.walk p with
      | error e =>
        refine .inr ⟨fun q h => ?_, ?_⟩
        · obtain ⟨mode, hentry⟩ := honly h ▸ h.2.2
          rw [Node.entry_eq_none.mpr ⟨e, hw⟩] at hentry
          cases hentry
        · simp only [Node.isMissing_of_walk hw, if_true]
          exact ⟨_, rfl⟩
      | ok node =>
        cases node with
        | file stamp data =>
          refine .inr ⟨fun q h => ?_, _, rfl⟩
          obtain ⟨mode, hentry⟩ := honly h ▸ h.2.2
          rw [Node.entry_of_walk hw] at hentry
          cases hentry
        | directory stamp es =>
          exact .inl ⟨p, ⟨hp, hreleased, stamp.mode, Node.entry_of_walk hw⟩, rfl⟩

theorem moved_of_changeDirectory {spelling : Text} {s t : Shell} {p : Path}
    (h : outcome (changeDirectory spelling) s = (.ok p, t)) :
    LeadsTo s spelling p ∧ t = { s with directory := p.text } := by
  rcases changeDirectory_cases spelling s with ⟨q, hleads, hrun⟩ | ⟨-, f, hrun⟩
  · obtain ⟨hq, ht⟩ := Prod.mk.inj (hrun.symm.trans h)
    obtain rfl := Except.ok.inj hq
    exact ⟨hleads, ht.symm⟩
  · cases hrun.symm.trans h

theorem outcome_cd_cons (arg : Text) (rest : List Text) (s : Shell) :
    (outcome (cd (arg :: rest)) s).2 = (outcome (changeDirectory arg) s).2 := by
  rw [cd, outcome_bind, outcome_attempt]
  rcases (outcome (changeDirectory arg) s).1 with f | p
  · cases f <;> rfl
  · rfl

/-- From one shell to another, in what happens while a line is executed. The directory stays, or a command
that moves has been recorded and moves to where its first argument leads. -/
inductive Roams : Shell → Shell → Prop
  | here (s : Shell) : Roams s s
  | stays {s t u : Shell} (h : Roams s t) (directory : u.directory = t.directory)
      (registry : u.registry = t.registry) (recorded : t.trace <+: u.trace)
      (changed : Since t.volume u.volume) : Roams s u
  | moves {s t u : Shell} {name arg : Text} {rest : List Text} {p : Path} (h : Roams s t)
      (offered : t.registry.called? name = some (.builtin .cd))
      (moved : outcome (changeDirectory arg) (noted (.bodyStarted name (arg :: rest)) t) = (.ok p, u)) :
      Roams s u

namespace Roams

variable {s t : Shell}

theorem registry_eq (h : Roams s t) : t.registry = s.registry := by
  induction h with
  | here => rfl
  | stays h directory registry recorded changed ih => exact registry.trans ih
  | moves h offered moved ih =>
    obtain ⟨-, rfl⟩ := moved_of_changeDirectory moved
    exact ih

theorem resting (first : Shell) : Resting first.registry (Roams first) where
  offers h := h.registry_eq
  changed h _ hv := .stays h rfl rfl (List.prefix_refl _) hv
  noted h st := .stays h rfl rfl (List.prefix_append _ [st]) .refl
  heard h _ := .stays h rfl rfl (List.prefix_refl _) .refl
  hooked h _ _ := .stays h rfl rfl (List.prefix_refl _) .refl
  counted h _ := .stays h rfl rfl (List.prefix_refl _) .refl
  moved := by
    intro t name h hknown args
    have hnoted : Roams first (Shell.noted (.bodyStarted name args) t) :=
      .stays h rfl rfl (List.prefix_append _ [_]) .refl
    cases args with
    | nil => exact hnoted
    | cons arg rest =>
      rw [outcome_cd_cons]
      rcases changeDirectory_cases arg (Shell.noted (.bodyStarted name (arg :: rest)) t) with
        ⟨p, -, hrun⟩ | ⟨-, f, hrun⟩
      · rw [hrun]
        exact .moves h (h.registry_eq ▸ hknown) hrun
      · rw [hrun]
        exact hnoted

theorem absolute (h : Roams s t) (habs : Path.isAbsolute s.directory = true) :
    Path.isAbsolute t.directory = true := by
  induction h with
  | here => exact habs
  | stays h directory registry recorded changed ih => exact directory ▸ ih
  | @moves t u name arg rest p h offered moved ih =>
    obtain ⟨-, rfl⟩ := moved_of_changeDirectory moved
    exact Path.isAbsolute_text p

theorem stayed_or_moved (h : Roams s t) :
    t.directory = s.directory ∨
      ∃ u v name arg rest p added, Roams s u ∧
        s.registry.called? name = some (.builtin .cd) ∧
        outcome (changeDirectory arg) (noted (.bodyStarted name (arg :: rest)) u) = (.ok p, v) ∧
        t.directory = p.text ∧ t.trace = u.trace ++ .bodyStarted name (arg :: rest) :: added := by
  induction h with
  | here => exact .inl rfl
  | stays h directory registry recorded changed ih =>
    obtain ⟨more, hmore⟩ := recorded
    rcases ih with hstayed | ⟨u, v, name, arg, rest, p, added, hu, hcd, hrun, hdir, htrace⟩
    · exact .inl (directory.trans hstayed)
    · refine .inr ⟨u, v, name, arg, rest, p, added ++ more, hu, hcd, hrun, directory.trans hdir, ?_⟩
      rw [← hmore, htrace, List.append_assoc, List.cons_append]
  | @moves t u name arg rest p h offered moved ih =>
    refine .inr ⟨t, u, name, arg, rest, p, [], h, h.registry_eq ▸ offered, moved, ?_⟩
    obtain ⟨-, rfl⟩ := moved_of_changeDirectory moved
    exact ⟨rfl, rfl⟩

end Roams

theorem changeDirectoryTo_cases (v : Json) (s : Shell) :
    (∃ t, v = .string t ∧ outcome (changeDirectoryTo v) s = outcome (changeDirectory t) s) ∨
      ∃ f, outcome (changeDirectoryTo v) s = (.error f, s) := by
  cases v with
  | string t => exact .inl ⟨t, rfl, rfl⟩
  | _ => exact .inr ⟨_, rfl⟩

theorem directory_changeDirectoryTo (v : Json) (s : Shell) :
    (outcome (changeDirectoryTo v) s).2.directory = s.directory ∨
      ∃ p, (outcome (changeDirectoryTo v) s).1 = .ok p := by
  rcases changeDirectoryTo_cases v s with ⟨t, rfl, hrun⟩ | ⟨f, hrun⟩
  · rcases changeDirectory_cases t s with ⟨p, -, hmoved⟩ | ⟨-, f, hfails⟩
    · exact .inr ⟨p, by rw [hrun, hmoved]⟩
    · exact .inl (by rw [hrun, hfails])
  · exact .inl (by rw [hrun])

theorem directory_apply_of_still {e : Event} (hline : ∀ line, e ≠ .executed line)
    (hmove : ∀ v, e ≠ .directoryChanged v) (now : Int) (s : Shell) :
    (e.apply now s).directory = s.directory := by
  have hsurrounded : Surrounded (fun _ => True) fun t u : Shell =>
      t = u ∧ t.directory = s.directory :=
    surrounded_self (fun ht _ _ => ht) (fun ht _ => ht) fun ht _ _ => ht
  suffices hact : Keeps (fun t : Shell => t.directory = s.directory) (fun _ => True) e.act from
    (hact { s with clock := now } rfl).2
  cases e with
  | executed line => exact absurd rfl (hline line)
  | directoryChanged v => exact absurd rfl (hmove v)
  | restored snapshot => exact (keeps_restore fun ht _ => ht).bind fun _ _ => Keeps.pure trivial
  | closed => exact Keeps.modify fun t ht => ht
  | hooked stage command h => exact Keeps.of_coupled_eq (hsurrounded.registerHook stage command h)
  | subscribed event id actions => exact Keeps.of_coupled_eq (hsurrounded.subscribe event id actions)
  | unsubscribed event id => exact Keeps.of_coupled_eq (hsurrounded.unsubscribe event id)
  | filesCalled method placed named =>
    have hcall : Keeps (fun t : Shell => t.directory = s.directory) (fun _ => True)
        (callFiles method placed named) := fun t ht => by
      rw [outcome_callFiles]
      exact ⟨fun _ _ => trivial, ht⟩
    exact hcall.bind fun _ _ => Keeps.pure trivial
  | requested r =>
    exact (Keeps.get.bind fun t _ => keeps_onVolume fun ht => ht).bind fun _ _ => Keeps.pure trivial

theorem roams_executed (line : Json) (now : Int) (s : Shell) :
    Roams { s with clock := now } ((Event.executed line).apply now s) := by
  have hact : Keeps (Roams { s with clock := now }) (fun _ => True) (Event.executed line).act :=
    ((Roams.resting { s with clock := now }).keeps_executeWithin nestingLimit line).bind
      fun _ _ => Keeps.pure trivial
  exact (hact _ (.here _)).2

/-- A shell that comes about has an absolute directory, and every spelling can be seen from it. Moving
succeeds just in case that its spelling leads to a directory on an open volume, and then the shell works in
that directory, spelled as its path; otherwise nothing is done, and neither way changes anything else. What
is given as a value is moved to as a text, or nothing is done.

Whatever happens to a shell leaves it where it is, unless it moves: directly, or in a line of which some
command was recorded that moves, and the directory is the one that the last of these moved to. In what
happens while a line is executed the directory stays absolute. -/
theorem directory_changes_by_moving :
    (∀ {start : Int} {settings : Settings} {commands : List (String × Offer Command)} {first : Shell},
      build start settings commands = .ok first → ∀ history,
        Path.isAbsolute (after first history).directory = true ∧
        ∀ spelling, ∃ p, outcome (resolve spelling) (after first history) =
          (.ok p, after first history)) ∧
    (∀ (spelling : Text) (s : Shell),
      (∃ p, LeadsTo s spelling p ∧
        outcome (changeDirectory spelling) s = (.ok p, { s with directory := p.text })) ∨
      (∀ p, ¬ LeadsTo s spelling p) ∧ ∃ f, outcome (changeDirectory spelling) s = (.error f, s)) ∧
    (∀ (v : Json) (s : Shell),
      (∃ t, v = .string t ∧
        outcome (changeDirectoryTo v) s = outcome (changeDirectory t) s) ∨
      ∃ f, outcome (changeDirectoryTo v) s = (.error f, s)) ∧
    (∀ (e : Event) (now : Int) (s : Shell),
      (e.apply now s).directory = s.directory ∨
      (∃ v p, e = .directoryChanged v ∧
        outcome (changeDirectoryTo v) { s with clock := now } = (.ok p, e.apply now s)) ∨
      ∃ line u v name arg rest p added, e = .executed line ∧ Roams { s with clock := now } u ∧
        s.registry.called? name = some (.builtin .cd) ∧
        outcome (changeDirectory arg) (noted (.bodyStarted name (arg :: rest)) u) = (.ok p, v) ∧
        (e.apply now s).directory = p.text ∧
        (e.apply now s).trace = u.trace ++ .bodyStarted name (arg :: rest) :: added) ∧
    (∀ line now s, Roams { s with clock := now } ((Event.executed line).apply now s)) ∧
    ∀ s t, Roams s t → Path.isAbsolute s.directory = true → Path.isAbsolute t.directory = true := by
  refine ⟨fun {_ _ _ first} hfirst history => ?_, changeDirectory_cases, changeDirectoryTo_cases,
    fun e now s => ?_, roams_executed, fun s t h => h.absolute⟩
  · have habs : Path.isAbsolute (after first history).directory = true := by
      obtain ⟨released, hs⟩ := (grounded_build hfirst).after history
      exact hs.absolute
    exact ⟨habs, outcome_resolve habs⟩
  · by_cases hline : ∃ line, e = .executed line
    · obtain ⟨line, rfl⟩ := hline
      rcases (roams_executed line now s).stayed_or_moved with
        hstayed | ⟨u, v, name, arg, rest, p, added, hu, hcd, hrun, hdir, htrace⟩
      · exact .inl hstayed
      · exact .inr (.inr ⟨line, u, v, name, arg, rest, p, added, rfl, hu, hcd, hrun, hdir, htrace⟩)
    · by_cases hmove : ∃ v, e = .directoryChanged v
      · obtain ⟨v, rfl⟩ := hmove
        have happly : (Event.directoryChanged v).apply now s =
            (outcome (changeDirectoryTo v) { s with clock := now }).2 := by
          rw [Event.apply, Event.act, outcome_bind]
          rcases outcome (changeDirectoryTo v) { s with clock := now } with ⟨f | p, t⟩ <;> rfl
        rcases directory_changeDirectoryTo v { s with clock := now } with hstayed | ⟨p, hp⟩
        · exact .inl (happly ▸ hstayed)
        · exact .inr (.inl ⟨v, p, rfl, Prod.ext hp happly.symm⟩)
      · exact .inl (directory_apply_of_still (fun line h => hline ⟨line, h⟩)
          (fun v h => hmove ⟨v, h⟩) now s)

/-- A new shell makes a directory, moves there by a line, removes it and does not find it any more; it still
works there, until it moves to the root. -/
theorem directory_changes_by_moving_removed :
    ∃ first, build 0 .usual builtins = .ok first ∧
      let s := after first [(1, .executed (.ofString "mkdir a")), (2, .executed (.ofString "cd a")),
        (3, .executed (.ofString "rm -r /a")), (4, .executed (.ofString "cd ../a"))]
      s.directory = Text.ofString "/a" ∧ Path.isAbsolute s.directory = true ∧
        (∃ p, outcome (resolve (Text.ofString "../b")) s = (.ok p, s)) ∧
        (∃ f, outcome (changeDirectory ".") s = (.error f, s)) ∧
        outcome (changeDirectory "..") s = (.ok [], { s with directory := Path.text [] }) ∧
        Roams { s with clock := 5 } ((Event.executed (.ofString "cd ..")).apply 5 s) ∧
        Path.isAbsolute ((Event.executed (.ofString "cd ..")).apply 5 s).directory = true := by
  obtain ⟨first, hfirst⟩ : ∃ first, build 0 .usual builtins = .ok first := ⟨_, rfl⟩
  obtain ⟨hreached, hmoving, -, -, hline, hroams⟩ := directory_changes_by_moving
  refine ⟨first, hfirst, ?_⟩
  intro s
  obtain ⟨habs, hseen⟩ := hreached hfirst [(1, .executed (.ofString "mkdir a")),
    (2, .executed (.ofString "cd a")), (3, .executed (.ofString "rm -r /a")),
    (4, .executed (.ofString "cd ../a"))]
  have hdir : s.directory = Text.ofString "/a" := by
    obtain rfl := Except.ok.inj hfirst
    decide +kernel
  have hthere : s.volume.root.entry [⟨Text.ofString "a", by decide⟩] = none ∧
      s.volume.released = false ∧ s.volume.root.entry [] = some (.directory 0o777) := by
    obtain rfl := Except.ok.inj hfirst
    decide +kernel
  have hgone : ∀ p, ¬ LeadsTo s "." p := by
    rintro p ⟨hp, -, mode, hentry⟩
    have hself : Path.resolve? (Text.ofString "/a") (Text.ofString ".") =
        some [⟨Text.ofString "a", by decide⟩] := by decide +kernel
    rw [hdir] at hp
    rw [← Option.some.inj (hself.symm.trans hp), hthere.1] at hentry
    cases hentry
  have habove : LeadsTo s ".." [] := by
    refine ⟨?_, hthere.2.1, _, hthere.2.2⟩
    rw [hdir]
    decide +kernel
  refine ⟨hdir, habs, hseen _, ?_, ?_, hline _ 5 s, hroams _ _ (hline _ 5 s) habs⟩
  · rcases hmoving "." s with ⟨p, hp, -⟩ | ⟨-, f, hfails⟩
    · exact absurd hp (hgone p)
    · exact ⟨f, hfails⟩
  · rcases hmoving ".." s with ⟨p, hp, hmoved⟩ | ⟨hnot, -⟩
    · obtain rfl := Option.some.inj (hp.1.symm.trans habove.1)
      exact hmoved
    · exact absurd habove (hnot [])

end MemoryShell.Shell
