import MemoryShell.Proofs.Shell.Resumable
import MemoryShell.Proofs.Shell.Redirect
import MemoryShell.Proofs.Volume.History

/-!
Where redirected output goes. The target is resolved in the shell that hooks and commands have left,
so whatever these did to the directory, to the target or to what is above it counts. If a file may be
written there, the output is written to it and nothing else in the volume changes; otherwise the
volume stays as it is. A write that was let through cannot fail any more.
-/

set_option autoImplicit false

namespace MemoryShell

/-- A shell with an absolute directory and a well-formed volume. -/
structure Shell.Upright (s : Shell) : Prop where
  absolute : Path.isAbsolute s.directory = true
  formed : Volume.WellFormed s.volume

namespace Shell

theorem sustained_upright (config : Config) :
    Sustained config fun s => s.config = config ∧ Upright s where
  config hs := hs.1
  entered hs p := ⟨hs.1, { hs.2 with absolute := Path.isAbsolute_text p }⟩
  changed hs _ h := ⟨hs.1, { hs.2 with formed := hs.2.formed.changes h }⟩
  noted hs _ := ⟨hs.1, { hs.2 with }⟩
  heard hs _ := ⟨hs.1, { hs.2 with }⟩
  hooked hs _ _ := ⟨hs.1, { hs.2 with }⟩
  counted hs _ := ⟨hs.1, { hs.2 with }⟩

theorem Upright.apply {s : Shell} (hs : Upright s) (now : Int) (e : Event) :
    Upright (e.apply now s) := by
  have hnow : Upright { s with clock := now } := { hs with }
  by_cases he : e.Staying
  · exact ((sustained_upright s.config).keeps_act he { s with clock := now }
      ⟨rfl, hnow⟩).2.2
  · cases e with
    | restored snapshot =>
      have hact : Keeps Upright (fun _ => True) (Event.restored snapshot).act :=
        (keeps_restore fun ht hw => { ht with formed := (wellFormed_of_loadVolume hw).1 }).bind
          fun _ _ => Keeps.pure trivial
      exact (hact _ hnow).2
    | closed => exact ⟨hs.absolute, rfl, (Volume.wellFormed_empty now).ordered⟩
    | _ => exact absurd trivial he

theorem upright_after {start : Int} {settings : Settings}
    {commands : List (String × Offer Command)} {first : Shell}
    (hfirst : build start settings commands = .ok first) (history : List (Int × Event)) (now : Int) :
    Upright { after first history with clock := now } := by
  suffices hrun : ∀ s, Upright s → Upright (after s history) by
    have hbuilt : Upright first := by
      obtain ⟨released, hstanding⟩ := grounded_build hfirst
      obtain ⟨-, hvolume, -, -⟩ := build_eq_ok_iff.mp hfirst
      refine ⟨hstanding.absolute, ?_⟩
      unfold startVolume at hvolume
      split at hvolume
      · exact (wellFormed_of_loadVolume hvolume).1
      · exact Except.ok.inj hvolume ▸ Volume.wellFormed_empty start
    exact { hrun first hbuilt with }
  unfold after
  induction history with
  | nil => exact fun s hs => hs
  | cons event rest ih => exact fun s hs => ih _ (hs.apply event.1 event.2)

/-- What a redirection has done to a volume: the target is a file that holds the octets of the output,
after what it held before if these were appended, with the mode that it had; and what stands at any
other path is what stood there. -/
structure Diverted (op : RedirectionOperator) (data : Bytes) (p : Path) (v w : Volume) : Prop where
  isOpen : w.released = false
  target : w.root.entry p = some (.file (v.fileAt p).1
    (match op with
      | .write => data
      | .append => (v.fileAt p).2 ++ data))
  other : ∀ q, q ≠ p → w.root.entry q = v.root.entry q

theorem Diverted.outcome_readText {written : String} {p : Path} {v w : Volume}
    (h : Diverted .write (Utf8.encode written) p v w)
    (hmode : (v.fileAt p).1 / Access.read.ownerBit % 2 = 1)
    {spelling : Text} (hp : Path.parse? spelling = some p) :
    outcome (Volume.readText spelling "utf-8") w = (.ok written, w) := by
  rw [Volume.outcome_readText, Volume.fileText_encode h.isOpen hp h.target hmode]

variable {s : Shell} {p : Path}

theorem exists_diverted (hopen : s.volume.released = false)
    (hroot : s.volume.root.isDirectory = true) (haccepts : s.volume.accepts p = true)
    (op : RedirectionOperator) {t : Text} {data : Bytes} (hdata : Utf8.encodeText? t = some data) :
    ∃ w, Diverted op data p s.volume w ∧
      outcome (onVolume fun now => Volume.writeText now (writeMode op) p.text t) s =
        (.ok (), { s with volume := w }) := by
  obtain ⟨w, hrun, hisOpen, hentry⟩ := Volume.outcome_writeFile_of_accepts hopen hroot haccepts
    s.clock (writeMode op) data
  refine ⟨w, ⟨hisOpen, ?_, fun q hq => ?_⟩, ?_⟩
  · rw [hentry, if_pos rfl]
    cases op <;> rfl
  · rw [hentry, if_neg hq]
  · rw [outcome_onVolume, Volume.outcome_writeText, hdata]
    simp only [hrun, mapError_ok]

theorem outcome_emit_volume (c : Channel) (message : Json) (s : Shell) :
    ∃ t, outcome (emit c message) s = (.ok message, t) ∧ t.volume = s.volume := by
  obtain ⟨ls, steps, hrun⟩ := outcome_emit c message s
  exact ⟨_, hrun, rfl⟩

theorem volume_emit (c : Channel) (message : Json) (s : Shell) :
    (outcome (emit c message) s).2.volume = s.volume := by
  obtain ⟨t, hrun, hvolume⟩ := outcome_emit_volume c message s
  rw [hrun]
  exact hvolume

theorem redirect_diverts (hopen : s.volume.released = false)
    (hroot : s.volume.root.isDirectory = true) {target : Text}
    (hp : Path.resolve? s.directory target = some p) (op : RedirectionOperator)
    (output command : Text) :
    ∃ answer t, outcome (redirect output op.symbol target command) s = (answer, t) ∧
      ((s.volume.accepts p = true ∧ ∃ data, Utf8.encodeText? (output ++ "\n") = some data ∧
          answer = .ok (.ofString "bash: ") ∧ Diverted op data p s.volume t.volume) ∨
        (s.volume.accepts p = true ∧ Utf8.encodeText? (output ++ "\n") = none ∧
          answer = .error (.volume .unencodable) ∧ t.volume = s.volume) ∨
        (s.volume.accepts p = false ∧
          answer = .ok (.string ("bash: " ++ p.text ++ ": permission denied")) ∧
          t.volume = s.volume)) := by
  have hresolve : outcome (resolve target) s = (.ok p, s) := by
    unfold resolve
    rw [outcome_bind, outcome_get]
    simp only [hp]
    rfl
  unfold redirect
  rw [outcome_bind_ok hresolve, outcome_bind_ok (outcome_isWritable_open hopen p), ofSymbol?_symbol]
  cases haccepts : s.volume.accepts p with
  | false =>
    obtain ⟨t, hrun, hvolume⟩ := outcome_emit_volume .stderr
      (.string (Message.prefixed (Message.permissionDenied p.text))) s
    have hwords : Message.prefixed (Message.permissionDenied p.text) =
        "bash: " ++ p.text ++ ": permission denied" := by
      rw [Message.prefixed, Message.permissionDenied, ← List.append_assoc]
      rfl
    refine ⟨_, t, hrun, .inr (.inr ⟨rfl, ?_, hvolume⟩)⟩
    rw [hwords]
  | true =>
    simp only [Bool.not_true, Bool.false_eq_true, if_false, outcome_bind, outcome_attempt]
    cases hdata : Utf8.encodeText? (output ++ Text.ofString "\n") with
    | none =>
      rw [outcome_writeText_unencodable _ p hdata]
      exact ⟨_, s, rfl, .inr (.inl ⟨trivial, rfl, rfl, rfl⟩)⟩
    | some data =>
      obtain ⟨w, hdiverted, hwrite⟩ := exists_diverted hopen hroot haccepts op hdata
      obtain ⟨t, hrun, hvolume⟩ := outcome_emit_volume .stdout (.string (Message.prefixed []))
        (noted (.redirected p) { s with volume := w })
      refine ⟨_, t, ?_, .inl ⟨trivial, data, rfl, rfl, hvolume ▸ hdiverted⟩⟩
      rw [hwrite]
      exact hrun

/-- Every shell that comes about is upright, and so it stays; and in an upright shell a line, nested
to any depth, has its output redirected as follows. If its hooks and its command come to an output and
leave the volume open, then the target is resolved in the directory that they leave, and either a file
may be written there, the answer is empty and the output is written, or none may, that is the answer
and the volume is exactly as they left it. What was written is read again if the file grants reading.
An output that has no octets is no well-formed text; it fails where a file may be written, and the volume
is as they left it. If a hook or the command fails, the volume is exactly as that left it. -/
theorem redirection_diverts_output :
    (∀ {start : Int} {settings : Settings} {commands : List (String × Offer Command)} {first : Shell},
      build start settings commands = .ok first → ∀ history now,
        Upright { after first history with clock := now }) ∧
    ∀ {s : Shell} {line : Json} {tokens : Tokens} {redirection : Redirection} {command : Command},
      Upright s → Resolves s line tokens (some redirection) command → ∀ (depth : Nat) r t,
      outcome (runStages (executeWithin depth) tokens command) s = (r, t) →
        Upright t ∧
        (∀ output : Text, r = .ok (.output (.string output)) → t.volume.released = false →
          ∃ p answer u, Path.resolve? t.directory redirection.target = some p ∧
            outcome (executeWithin (depth + 1) line) s = (answer, u) ∧
            ((t.volume.accepts p = true ∧ ∃ data, Utf8.encodeText? (output ++ "\n") = some data ∧
                answer = .ok (.ofString "bash: ") ∧
                Diverted redirection.operator data p t.volume u.volume ∧
                (redirection.operator = .write →
                  (t.volume.fileAt p).1 / Access.read.ownerBit % 2 = 1 →
                  ∀ (written : String) spelling, output = written → Path.parse? spelling = some p →
                    outcome (Volume.readText spelling "utf-8") u.volume =
                      (.ok (written ++ "\n"), u.volume))) ∨
              (t.volume.accepts p = true ∧ Utf8.encodeText? (output ++ "\n") = none ∧
                answer = .error (.volume .unencodable) ∧ u.volume = t.volume) ∨
              (t.volume.accepts p = false ∧
                answer = .ok (.string ("bash: " ++ p.text ++ ": permission denied")) ∧
                u.volume = t.volume))) ∧
        ((∀ output, r ≠ .ok (.output output)) →
          (outcome (executeWithin (depth + 1) line) s).2.volume = t.volume) := by
  refine ⟨fun hfirst => upright_after hfirst, ?_⟩
  intro s line tokens redirection command hs hline depth r t hstages
  have ht : Upright t := by
    have hkept := (sustained_upright s.config).keeps_runStages
      ((sustained_upright s.config).keeps_executeWithin depth) tokens command s ⟨rfl, hs⟩
    rw [hstages] at hkept
    exact hkept.2.2
  have hdispatch : outcome (executeWithin (depth + 1) line) s =
      outcome (dispatch (executeWithin depth) tokens (some redirection) command) s :=
    hline.outcome_eq (executeWithin depth)
  refine ⟨ht, ?_, ?_⟩
  · rintro output rfl hopen
    obtain ⟨p, hp⟩ := Path.exists_resolve? ht.absolute redirection.target
    obtain ⟨answer, u, hrun, hcases⟩ := redirect_diverts hopen ht.formed.root hp
      redirection.operator output tokens.name
    refine ⟨p, answer, u, hp, ?_, ?_⟩
    · rw [hdispatch, dispatch, outcome_bind, outcome_attempt, hstages]
      exact hrun
    · rcases hcases with ⟨haccepts, data, hdata, hanswer, hdiverted⟩ | hrest
      · refine .inl ⟨haccepts, data, hdata, hanswer, hdiverted, ?_⟩
        rintro hop hmode written spelling rfl hspelling
        rw [← Text.ofString_append, Utf8.encodeText?_ofString] at hdata
        rw [hop, ← Option.some.inj hdata] at hdiverted
        exact hdiverted.outcome_readText hmode hspelling
      · exact .inr hrest
  · intro hfails
    rw [hdispatch, dispatch, outcome_bind, outcome_attempt, hstages]
    rcases r with f | output | ⟨kind, message⟩
    · exact volume_emit _ _ t
    · exact absurd rfl (hfails output)
    · exact volume_emit _ _ t

/-- In a new shell a file is made for the output of a line, and the output is read there. -/
theorem redirection_diverts_output_echo :
    ∃ first u, build 0 .usual builtins = .ok first ∧
      outcome (executeWithin 1 (.ofString "echo hi > /f")) first = (.ok (.ofString "bash: "), u) ∧
      outcome (Volume.readText (.ofString "/f") "utf-8") u.volume = (.ok "hi\n", u.volume) := by
  have hline : (Json.ofString "echo hi > /f").text? = some "echo hi > /f" := by decide +kernel
  have hblank : CommandLine.isBlankLine "echo hi > /f" = false := by decide +kernel
  have hparse : CommandLine.parse "echo hi > /f" = ⟨"echo hi", some ⟨.write, "/f"⟩⟩ := by
    decide +kernel
  have htokens : Tokens.ofText "echo hi" = .ok ⟨"echo", ["hi"]⟩ := by decide +kernel
  obtain ⟨hupright, hdiverts⟩ := redirection_diverts_output
  obtain ⟨first, hfirst⟩ : ∃ first, build 0 .usual builtins = .ok first := ⟨_, rfl⟩
  obtain ⟨t, hstages, hopen, hdirectory, hroot⟩ :
      ∃ t, outcome (runStages (executeWithin 0) ⟨"echo", ["hi"]⟩ (.builtin .echo))
          { after first [] with clock := 0 } = (.ok (.output (.ofString "hi")), t) ∧
        t.volume.released = false ∧ t.directory = .ofString "/" ∧ t.volume = .empty 0 := by
    obtain rfl := Except.ok.inj hfirst
    exact ⟨_, rfl, rfl, rfl, rfl⟩
  have hresolves : Resolves { after first [] with clock := 0 } (.ofString "echo hi > /f")
      ⟨"echo", ["hi"]⟩ (some ⟨.write, "/f"⟩) (.builtin .echo) := by
    refine ⟨⟨"echo hi > /f", hline, hblank, ?_, ?_⟩, by decide, ?_⟩
    · rw [hparse, htokens]
    · rw [hparse]
    · obtain rfl := Except.ok.inj hfirst
      rfl
  obtain ⟨-, hsucceeds, -⟩ := hdiverts (hupright hfirst [] 0) hresolves 0 _ t hstages
  obtain ⟨p, answer, u, hp, hrun, hcases⟩ := hsucceeds "hi" rfl hopen
  have hf : p = [⟨.ofString "f", by decide⟩] := by
    rw [hdirectory] at hp
    exact (Option.some.inj hp).symm
  rw [hf, hroot] at hcases
  rcases hcases with ⟨-, data, -, rfl, -, hread⟩ | ⟨-, hoctets, -⟩ | ⟨hrefused, -⟩
  · have hclock : ({ after first [] with clock := 0 } : Shell) = first := by
      obtain rfl := Except.ok.inj hfirst
      rfl
    rw [hclock] at hrun
    exact ⟨first, u, hfirst, hrun, hread rfl (by decide) "hi" "/f" rfl (by decide +kernel)⟩
  · exact absurd hoctets (by decide)
  · exact absurd hrefused (by decide)

end Shell

end MemoryShell
