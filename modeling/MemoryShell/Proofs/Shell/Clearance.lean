import MemoryShell.Proofs.Shell.Diversion

/-!
What it is worth to ask first. On an open volume the question whether a path may be written has an
answer, and a write at that path succeeds just in case that the answer is yes. So after a yes the write
of a redirection cannot fail for a cause of the file system, and what is done about such a failure is
never done.
-/

set_option autoImplicit false

namespace MemoryShell

namespace Volume

variable {v : Volume} {p : Path}

theorem writable_iff_accepts (hopen : v.released = false) (hroot : v.root.isDirectory = true) :
    (∃ slot, v.writable p.text = .ok slot) ↔ v.accepts p = true := by
  refine ⟨fun ⟨slot, h⟩ => accepts_of_writable h, fun h => ?_⟩
  obtain ⟨w, hrun, -, -⟩ := outcome_writeFile_of_accepts hopen hroot h 0 .replace []
  rw [outcome_writeFile] at hrun
  cases hw : v.writable p.text with
  | ok slot => exact ⟨slot, rfl⟩
  | error e =>
    rw [hw] at hrun
    cases (Prod.mk.inj hrun).1

theorem writeFile_succeeds_iff (hopen : v.released = false) (hroot : v.root.isDirectory = true)
    (now : Int) (mode : WriteMode) (data : Bytes) :
    (outcome (writeFile now mode p.text data) v).1 = .ok () ↔ v.accepts p = true := by
  rw [← writable_iff_accepts hopen hroot, outcome_writeFile]
  cases v.writable p.text with
  | ok slot => exact iff_of_true rfl ⟨slot, rfl⟩
  | error e => exact iff_of_false nofun nofun

theorem writeText_succeeds_iff (hopen : v.released = false) (hroot : v.root.isDirectory = true)
    (now : Int) (mode : WriteMode) (t : Text) :
    (outcome (writeText now mode p.text t) v).1 = .ok () ↔
      v.accepts p = true ∧ (Utf8.encodeText? t).isSome = true := by
  rw [outcome_writeText]
  cases Utf8.encodeText? t with
  | none => simp
  | some data => simp [writeFile_succeeds_iff hopen hroot]

end Volume

namespace Shell

/-- Writing output to a target, with something to do about a cause that the file system reports after
the target was found to be writable. -/
def redirectHandling (handle : Errno → ShellM Json) (output operator target : Text) :
    ShellM Json := do
  let p ← resolve target
  if !(← isWritable p) then return ← complain (Message.permissionDenied p.text)
  match RedirectionOperator.ofSymbol? operator with
  | none => complain (Message.invalidOperator operator)
  | some op =>
    let data := output ++ "\n"
    match ← attempt (onVolume fun now => Volume.writeText now (writeMode op) p.text data) with
    | .ok _ =>
      record (.redirected p)
      emit .stdout (.string (Message.prefixed []))
    | .error (.volume (.file e _)) => handle e
    | .error f => throw f

theorem redirect_eq_handling (output operator target command : Text) :
    redirect output operator target command =
      redirectHandling (fun e => complain (command ++ ": " ++ e.message)) output operator target :=
  rfl

variable {s : Shell}

theorem redirectHandling_congr (hs : Upright s) (first second : Errno → ShellM Json)
    (output operator target : Text) :
    outcome (redirectHandling first output operator target) s =
      outcome (redirectHandling second output operator target) s := by
  obtain ⟨p, hp⟩ := outcome_resolve hs.absolute target
  unfold redirectHandling
  rw [outcome_bind_ok hp, outcome_bind_ok hp]
  cases hr : s.volume.released with
  | true =>
    rw [outcome_bind, outcome_bind, outcome_isWritable_released hr]
  | false =>
    have hasked := outcome_isWritable_open hr p
    rw [outcome_bind_ok hasked, outcome_bind_ok hasked]
    cases haccepts : s.volume.accepts p with
    | false => rfl
    | true =>
      cases RedirectionOperator.ofSymbol? operator with
      | none => rfl
      | some op =>
        simp only [Bool.not_true, Bool.false_eq_true, if_false, outcome_bind, outcome_attempt]
        cases hdata : Utf8.encodeText? (output ++ Text.ofString "\n") with
        | none => rw [outcome_writeText_unencodable _ p hdata]
        | some data =>
          obtain ⟨w, -, hwrite⟩ := exists_diverted hr hs.formed.root haccepts op hdata
          rw [hwrite]

theorem volume_redirect_of_unknown (hs : Upright s) {operator : Text}
    (hunknown : RedirectionOperator.ofSymbol? operator = none) (output target command : Text) :
    (outcome (redirect output operator target command) s).2.volume = s.volume := by
  obtain ⟨p, hp⟩ := outcome_resolve hs.absolute target
  unfold redirect
  rw [outcome_bind_ok hp]
  cases hr : s.volume.released with
  | true => rw [outcome_bind, outcome_isWritable_released hr]
  | false =>
    rw [outcome_bind_ok (outcome_isWritable_open hr p), hunknown]
    cases s.volume.accepts p <;> exact volume_emit _ _ s

/-- Every shell that comes about is upright. In an upright shell whose volume is open, the question
whether a path may be written is answered and changes nothing, and the answer is yes just in case that a
write there succeeds, whether it replaces or appends and whatever it writes, as long as a text has
octets. So in a redirection it makes no difference what would be done if the file system did not let the
write through; and with an operator that is not known the volume stays as it is. -/
theorem clearance_decides_writing :
    (∀ {start : Int} {settings : Settings} {commands : List (String × Offer Command)} {first : Shell},
      build start settings commands = .ok first → ∀ history now,
        Upright { after first history with clock := now }) ∧
    ∀ {s : Shell}, Upright s →
      (s.volume.released = false → ∀ p : Path, ∃ answer,
        outcome (isWritable p) s = (.ok answer, s) ∧
        ∀ (now : Int) (mode : Volume.WriteMode),
          (∀ data, (outcome (Volume.writeFile now mode p.text data) s.volume).1 = .ok () ↔
            answer = true) ∧
          ∀ t, (outcome (Volume.writeText now mode p.text t) s.volume).1 = .ok () ↔
            answer = true ∧ (Utf8.encodeText? t).isSome = true) ∧
      (∀ handle output operator target command,
        outcome (redirectHandling handle output operator target) s =
          outcome (redirect output operator target command) s) ∧
      ∀ output operator target command, RedirectionOperator.ofSymbol? operator = none →
        (outcome (redirect output operator target command) s).2.volume = s.volume := by
  refine ⟨fun hfirst => upright_after hfirst, ?_⟩
  intro s hs
  refine ⟨fun hopen p =>
      ⟨s.volume.accepts p, outcome_isWritable_open hopen p, fun now mode => ⟨?_, ?_⟩⟩,
    fun handle output operator target command => ?_,
    fun output operator target command hunknown => ?_⟩
  · exact Volume.writeFile_succeeds_iff hopen hs.formed.root now mode
  · exact Volume.writeText_succeeds_iff hopen hs.formed.root now mode
  · rw [redirect_eq_handling]
    exact redirectHandling_congr hs handle _ output operator target
  · exact volume_redirect_of_unknown hs hunknown output target command

/-- In a new shell a file may be written at the root, and the root itself may not. -/
theorem clearance_decides_writing_new_shell :
    ∃ first, build 0 .usual builtins = .ok first ∧ first.volume.released = false ∧
      outcome (isWritable [⟨.ofString "f", by decide⟩]) first = (.ok true, first) ∧
      outcome (isWritable []) first = (.ok false, first) := by
  obtain ⟨hupright, hdecides⟩ := clearance_decides_writing
  obtain ⟨first, hfirst⟩ : ∃ first, build 0 .usual builtins = .ok first := ⟨_, rfl⟩
  have hclock : ({ after first [] with clock := 0 } : Shell) = first := by
    obtain rfl := Except.ok.inj hfirst
    rfl
  have hempty : first.volume = .empty 0 := by
    obtain rfl := Except.ok.inj hfirst
    rfl
  have hopen : first.volume.released = false := by rw [hempty]; rfl
  obtain ⟨hanswer, -, -⟩ := hdecides (hclock ▸ hupright hfirst [] 0)
  obtain ⟨new, hnew, hnewWrites⟩ := hanswer hopen [⟨.ofString "f", by decide⟩]
  obtain ⟨root, hroot, hrootWrites⟩ := hanswer hopen []
  have hyes : new = true := by
    rw [← (hnewWrites 0 .replace).1 [], hempty]
    rfl
  have hno : root = false := by
    refine Bool.eq_false_iff.mpr fun h => ?_
    rw [← (hrootWrites 0 .replace).1 [], hempty] at h
    cases h
  exact ⟨first, hfirst, hopen, hyes ▸ hnew, hno ▸ hroot⟩

end Shell

end MemoryShell
