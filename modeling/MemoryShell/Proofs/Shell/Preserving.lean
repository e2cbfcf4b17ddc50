import MemoryShell.Proofs.Command.Footprint
import MemoryShell.Proofs.Shell.Emission
import MemoryShell.Proofs.Shell.History
import MemoryShell.Proofs.Shell.Line
import MemoryShell.Proofs.Volume.Intact

/-!
What a line of a built-in command leaves as it is. Without hooks, a line changes the volume by the
footprint of its command and by the output that is written to the target of a redirection; saying
something changes nothing. So nothing is removed and no mode is changed but by removing, commands that
only look at files leave everything as it is, and those that make files and directories leave what there
is.
-/

set_option autoImplicit false

namespace MemoryShell

namespace Registry

/-- Every name that has a command has the built-in one of that name. -/
def Native (registry : Registry Command) : Prop :=
  ∀ name command, registry.resolve? name = some command →
    ∃ b : Builtin, command = .builtin b ∧ b.name = name

theorem native_registerAll {builtins : List Builtin} {r r' : Registry Command} (hr : r.Native)
    (h : r.registerAll (builtins.map fun b => (b.name, .made (.command (.builtin b)))) = .ok r') :
    r'.Native := by
  induction builtins generalizing r with
  | nil => exact Except.ok.inj h ▸ hr
  | cons b rest ih =>
    refine ih (fun name command hcommand => ?_) h
    have hlower : Text.lowercase b.name = b.name := by cases b <;> rfl
    rw [resolve?_register, hlower] at hcommand
    split at hcommand
    · exact ⟨b, (Option.some.inj hcommand).symm, by assumption⟩
    · exact hr name command hcommand

end Registry

namespace Shell

open Commands

theorem native_builtins {registry : Registry Command}
    (h : Registry.empty.registerAll builtins = .ok registry) : registry.Native :=
  Registry.native_registerAll (fun _ _ hcommand => by cases hcommand) h

/-- A shell without hooks whose volume has a property. -/
structure Calm (K : Volume → Prop) (s : Shell) : Prop where
  unhooked : Unhooked s
  holds : K s.volume

/-- A property of volumes that a command cannot take away. -/
def Lasting (b : Builtin) (K : Volume → Prop) : Prop :=
  ∀ now v op, K v → b.MayDo v op → K (outcome (op.perform now) v).2

/-- A property of volumes that writing a text cannot take away. -/
def Writing (K : Volume → Prop) : Prop :=
  ∀ now mode path t v, K v → K (outcome (Volume.writeText now mode path t) v).2

section

variable {K : Volume → Prop} {b : Builtin}

theorem Lasting.withstands (h : Lasting b K) : Withstands b (Calm K) where
  entered _ _ hs _ := ⟨hs.unhooked, hs.holds⟩
  done {s op} hs hmay := ⟨hs.unhooked, h s.clock s.volume op hs.holds hmay⟩

theorem keeps_record (step : Step) : Keeps (Calm K) (fun _ => True) (record step) :=
  Keeps.modify fun _ hs => ⟨hs.unhooked, hs.holds⟩

theorem keeps_emit (c : Channel) (message : Json) :
    Keeps (Calm K) (fun _ => True) (emit c message) := by
  intro s hs
  obtain ⟨listeners, steps, hrun⟩ := outcome_emit c message s
  rw [hrun]
  exact ⟨fun _ _ => trivial, hs.unhooked, hs.holds⟩

theorem keeps_runHooks (execute : Json → ShellM Json) (stage : Stage) (command : Json)
    (args : List Json) (output : Option Json) :
    Keeps (Calm K) (fun _ => True) (runHooks execute stage command args output) := by
  refine Keeps.of_coupled_eq (coupled_runHooks_of_unhooked ?_ execute stage command args output)
  rintro s t ⟨rfl, hs⟩
  exact ⟨hs.unhooked, hs.unhooked⟩

theorem keeps_redirect (hwriting : Writing K) (output operator target command : Text) :
    Keeps (Calm K) (fun _ => True) (redirect output operator target command) := by
  refine (keeps_resolve _).bind fun p _ => (keeps_isWritable p).bind fun writable _ => ?_
  split
  · exact keeps_emit _ _
  · split
    · exact keeps_emit _ _
    · have hwrite : Keeps (Calm K) (fun _ => True) (onVolume fun now =>
          Volume.writeText now (writeMode ‹_›) p.text (output ++ "\n")) :=
        keeps_onVolume fun {s} hs => ⟨hs.unhooked, hwriting s.clock _ _ _ _ hs.holds⟩
      refine hwrite.attempt.bind fun r _ => ?_
      split
      · exact (keeps_record _).bind fun _ _ => keeps_emit _ _
      · exact keeps_emit _ _
      · exact Keeps.throw _

theorem keeps_handOver (tokens : Tokens) (output : Json) {redirection : Option Redirection}
    (hwriting : redirection = none ∨ Writing K) :
    Keeps (Calm K) (fun _ => True) (handOver tokens output redirection) := by
  cases redirection with
  | none => exact keeps_emit _ _
  | some r => exact keeps_redirect (hwriting.resolve_left (Option.some_ne_none r)) _ _ _ _

theorem keeps_dispatch (hlasting : Lasting b K) {redirection : Option Redirection}
    (hwriting : redirection = none ∨ Writing K) (execute : Json → ShellM Json) (tokens : Tokens) :
    Keeps (Calm K) (fun _ => True) (dispatch execute tokens redirection (.builtin b)) := by
  have hinvoke : Keeps (Calm K) (fun _ => True) (invoke execute (.builtin b) tokens.args) :=
    Keeps.get.bind fun _ _ => hlasting.withstands.keeps_runBuiltin tokens.args
  have hstages : Keeps (Calm K) (fun _ => True) (runStages execute tokens (.builtin b)) := by
    refine (keeps_runHooks _ _ _ _ _).bind fun _ _ => (keeps_record _).bind fun _ _ => ?_
    refine hinvoke.bind fun o _ => ?_
    split
    · exact Keeps.pure trivial
    · exact (keeps_runHooks _ _ _ _ _).bind fun _ _ => Keeps.pure trivial
  refine hstages.attempt.bind fun r _ => ?_
  split
  · exact keeps_emit _ _
  · exact keeps_emit _ _
  · exact keeps_handOver tokens _ hwriting

theorem holds_execute {s : Shell} (hregistry : s.registry.Native) (hhooks : Unhooked s)
    (hholds : K s.volume) {line : Json}
    (h : ∀ e b, errand s.registry line = .ok e → ↑b.name = e.tokens.name →
      Lasting b K ∧ (e.redirection = none ∨ Writing K)) :
    K (outcome (execute line) s).2.volume := by
  have hs : Calm K s := ⟨hhooks, hholds⟩
  have hline : outcome (execute line) s = outcome (executeWith (executeWithin 149) line) s := rfl
  rw [hline, outcome_executeWith]
  cases he : errand s.registry line with
  | error message => exact (keeps_emit _ _ s hs).2.holds
  | ok e =>
    obtain ⟨key, hkey, hknown⟩ := Registry.resolve?_of_called? (resolves_of_errand he).known
    obtain ⟨b, hcommand, rfl⟩ := hregistry key _ hknown
    obtain ⟨hlasting, hwriting⟩ := h e b he hkey.symm
    simp only [hcommand]
    exact (keeps_dispatch hlasting hwriting _ e.tokens s hs).2.holds

end

theorem isMild_of_mayDo {b : Builtin} {v : Volume} {op : Volume.Operation} (h : b.MayDo v op)
    (hb : b ≠ .rm) : op.isMild = true := by
  cases h with
  | remove => exact absurd rfl hb
  | make => rfl
  | makeCopy => rfl
  | copy => rfl
  | touch => rfl
  | create => rfl

theorem lasting_intact {b : Builtin} (hb : b ≠ .rm) (first : Volume) : Lasting b first.Intact :=
  fun now v _ hv hmay => hv.trans (Volume.intact_perform (isMild_of_mayDo hmay hb) now v)

theorem writing_intact (first : Volume) : Writing first.Intact :=
  fun now mode path t v hv => hv.trans (Volume.intact_writeText now mode path t v)

theorem lasting_of_looking {b : Builtin} (hb : b = .echo ∨ b = .cat ∨ b = .cd)
    (K : Volume → Prop) : Lasting b K := by
  intro now v op _ hmay
  rcases hb with rfl | rfl | rfl <;> cases hmay

theorem lasting_extended {b : Builtin} (hb : b = .touch ∨ b = .mkdir) (first : Volume) :
    Lasting b first.Extended := by
  intro now v op hv hmay
  refine hv.trans ?_
  rcases hb with rfl | rfl
  · cases hmay with
    | touch _ path time =>
      rw [Volume.Operation.perform, Volume.outcome_silent]
      exact Volume.extended_setTimes path _ v
    | create _ path missing =>
      rw [Volume.Operation.perform, Volume.outcome_silent]
      exact Volume.extended_writeFile_of_missing missing now .replace []
  · cases hmay with
    | make _ path recursive =>
      cases recursive with
      | true =>
        rw [Volume.Operation.perform, Volume.outcome_silent]
        exact Volume.extended_makeDirectories now path v
      | false =>
        rw [Volume.Operation.perform, Volume.outcome_silent]
        exact Volume.extended_makeDirectory now path v

/-- In a shell with the built-in commands and no hooks, whatever else has happened to it, a line that is
not for removing leaves a node of the same kind and with the same mode at every path where there was
one, wherever it fails and wherever its output goes. Without redirection, saying, showing and moving
leave all of the volume as it is, and touching and making directories leave the octets of every file. -/
theorem only_rm_removes {s : Shell}
    (hregistry : Registry.empty.registerAll builtins = .ok s.registry) (hhooks : Unhooked s)
    (line : Json) :
    let after := (outcome (execute line) s).2.volume
    ((∀ e, errand s.registry line = .ok e → e.tokens.name ≠ "rm") →
      ∀ p e, s.volume.root.entry p = some e →
        ∃ f, after.root.entry p = some f ∧ f.kind = e.kind ∧ f.mode = e.mode) ∧
    ∀ e, errand s.registry line = .ok e → e.redirection = none →
      (e.tokens.name ∈ (["echo", "cat", "cd"] : List Text) → after = s.volume) ∧
      (e.tokens.name ∈ (["touch", "mkdir"] : List Text) → ∀ p mode data,
        s.volume.root.entry p = some (.file mode data) →
          after.root.entry p = some (.file mode data)) := by
  have hnative := native_builtins hregistry
  intro after
  refine ⟨fun hname => ?_, fun e he hdirect => ⟨fun hlooking => ?_, fun hmaking => ?_⟩⟩
  · have hintact : s.volume.Intact after := by
      refine holds_execute hnative hhooks (.refl _) fun e b he hb => ?_
      have hrm : b ≠ .rm := by
        rintro rfl
        exact hname e he hb.symm
      exact ⟨lasting_intact hrm s.volume, .inr (writing_intact s.volume)⟩
    intro p e he
    obtain ⟨f, hf, hef⟩ := hintact p e he
    exact ⟨f, hf, hef.kind, hef.mode⟩
  · refine holds_execute (K := fun v => v = s.volume) hnative hhooks rfl fun e' b he' hb => ?_
    obtain rfl := Except.ok.inj (he.symm.trans he')
    have hlook : b = .echo ∨ b = .cat ∨ b = .cd := by
      rw [← hb] at hlooking
      revert hlooking
      cases b <;> decide
    exact ⟨lasting_of_looking hlook _, .inl hdirect⟩
  · have hextended : s.volume.Extended after := by
      refine holds_execute hnative hhooks (.refl _) fun e' b he' hb => ?_
      obtain rfl := Except.ok.inj (he.symm.trans he')
      have hmake : b = .touch ∨ b = .mkdir := by
        rw [← hb] at hmaking
        revert hmaking
        cases b <;> decide
      exact ⟨lasting_extended hmake s.volume, .inl hdirect⟩
    intro p mode data hfile
    exact hextended p _ hfile

/-- A directory is copied, and what is said of it goes into a file of that directory; then the file is
touched. -/
theorem only_rm_removes_redirected_copy :
    let d : Name := ⟨Text.ofString "d", by decide⟩
    let f : Name := ⟨Text.ofString "f", by decide⟩
    let root : Node := .directory (.fresh 0o777 0)
      [(d, .directory (.fresh 0o755 0) [(f, .file (.fresh 0o640 0) [1])])]
    ∃ first s : Shell, build 0 .usual builtins = .ok first ∧
      s = { first with volume := ⟨root, false⟩ } ∧ Unhooked s ∧
      Registry.empty.registerAll builtins = .ok s.registry ∧
      (∃ e, (outcome (execute (.ofString "cp -r d e > d/f")) s).2.volume.root.entry [d, f] = some e ∧
        e.kind = .file ∧ e.mode = 0o640) ∧
      (outcome (execute (.ofString "touch d/f")) s).2.volume.root.entry [d, f] =
        some (.file 0o640 [1]) := by
  intro d f root
  obtain ⟨first, hfirst⟩ : ∃ first, build 0 .usual builtins = .ok first := ⟨_, rfl⟩
  obtain ⟨-, -, hregistry, -⟩ := build_eq_ok_iff.mp hfirst
  let s : Shell := { first with volume := ⟨root, false⟩ }
  have hhooks : Unhooked s := by
    intro stage
    obtain rfl := Except.ok.inj hfirst
    cases stage <;> rfl
  have hcopy : Resolves s (.ofString "cp -r d e > d/f") ⟨"cp", ["-r", "d", "e"]⟩
      (some ⟨.write, "d/f"⟩) (.builtin .cp) := by
    refine ⟨⟨"cp -r d e > d/f", by decide +kernel, by decide +kernel, by decide +kernel,
      by decide +kernel⟩, by decide, ?_⟩
    obtain rfl := Except.ok.inj hfirst
    rfl
  have htouch : Resolves s (.ofString "touch d/f") ⟨"touch", ["d/f"]⟩ none (.builtin .touch) := by
    refine ⟨⟨"touch d/f", by decide +kernel, by decide +kernel, by decide +kernel,
      by decide +kernel⟩, by decide, ?_⟩
    obtain rfl := Except.ok.inj hfirst
    rfl
  obtain ⟨hremains, -⟩ := only_rm_removes (s := s) hregistry hhooks (.ofString "cp -r d e > d/f")
  obtain ⟨-, hdirect⟩ := only_rm_removes (s := s) hregistry hhooks (.ofString "touch d/f")
  obtain ⟨e, he, hkind, hmode⟩ := hremains
    (fun e he => by
      obtain rfl := Except.ok.inj (hcopy.errand_eq.symm.trans he)
      decide) [d, f] (.file 0o640 [1]) rfl
  obtain ⟨-, hkept⟩ := hdirect _ htouch.errand_eq rfl
  exact ⟨first, s, hfirst, rfl, hhooks, hregistry, ⟨e, he, hkind, hmode⟩,
    hkept (by decide) [d, f] 0o640 [1] rfl⟩

end Shell

end MemoryShell
