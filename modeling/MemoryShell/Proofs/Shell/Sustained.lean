import MemoryShell.Proofs.Shell.Upheld
import MemoryShell.Proofs.Volume.Invocation

set_option autoImplicit false

namespace MemoryShell.Shell

/-- An invariant that nothing breaks of what happens while a line is executed. -/
structure Sustained (config : Config) (I : Shell → Prop) : Prop where
  config : ∀ {s}, I s → s.config = config
  entered : ∀ {s}, I s → ∀ p : Path, I { s with directory := p.text }
  changed : ∀ {s}, I s → ∀ {v}, Since s.volume v → I { s with volume := v }
  noted : ∀ {s}, I s → ∀ st, I (noted st s)
  heard : ∀ {s}, I s → ∀ ls, I { s with listeners := ls }
  hooked : ∀ {s}, I s → ∀ before after, I { s with hooksBefore := before, hooksAfter := after }
  counted : ∀ {s}, I s → ∀ n, I { s with activeIsolates := n }

namespace Sustained

variable {config : Config} {I : Shell → Prop} (hI : Sustained config I)

include hI

theorem keeps_changes {α : Type} {op : Int → VolumeM α}
    (h : ∀ now v, Since v (outcome (op now) v).2) : Keeps I (fun _ => True) (onVolume op) := by
  intro s hs
  rw [outcome_onVolume]
  exact ⟨fun _ _ => trivial, hI.changed hs (h s.clock s.volume)⟩

theorem stable : Stable I where
  enter hs p := hI.entered hs p
  changed hs _ h := hI.changed hs h.since

theorem surrounded : Surrounded (fun _ => True) fun s t => s = t ∧ I s :=
  surrounded_self (fun hs st _ => hI.noted hs st) hI.heard hI.hooked

theorem keeps_serve (process : Isolate.Process) (limits : Limits) :
    Keeps I (fun _ => True) (serve process limits) := by
  refine Keeps.get.bind fun s _ => hI.keeps_changes fun now v => ?_
  exact Isolate.since_serve s.directory now limits.timeoutMs process.exitCode false process.events
    v .refl

theorem upheld : Upheld config I where
  config := hI.config
  stable := hI.stable
  surrounded := hI.surrounded
  counted := hI.counted
  served _ _ call _ limits := hI.keeps_serve call.process limits

section

variable {execute : Json → ShellM Json}
  (hexecute : ∀ line, Keeps I (fun _ => True) (execute line))

include hexecute

theorem keeps_runHooks (stage : Stage) (command : Json) (args : List Json) (output : Option Json) :
    Keeps I (fun _ => True) (runHooks execute stage command args output) :=
  hI.upheld.keeps_runHooks hexecute stage command args output

theorem keeps_invoke (command : Command) (args : List Text) :
    Keeps I (fun o => Speaking config command → Commands.SpeaksText o)
      (Commands.invoke execute command args) :=
  hI.upheld.keeps_invoke hexecute (fun call _ => hI.keeps_serve call.process) args

theorem keeps_runStages (tokens : Tokens) (command : Command) :
    Keeps I (fun o => Speaking config command → Commands.SpeaksText o)
      (runStages execute tokens command) :=
  hI.upheld.keeps_runStages hexecute (fun call _ => hI.keeps_serve call.process) tokens

end

theorem keeps_executeWithin (depth : Nat) (line : Json) :
    Keeps I (fun _ => True) (executeWithin depth line) :=
  hI.upheld.keeps_executeWithin depth line

end Sustained

/-- What stays the same while a line is executed. -/
structure Standing (config : Config) (registry : Registry Command) (released : Bool) (s : Shell) :
    Prop where
  config : s.config = config
  registry : s.registry = registry
  released : s.volume.released = released
  absolute : Path.isAbsolute s.directory = true

theorem sustained_standing {config : Config} {registry : Registry Command} {released : Bool} :
    Sustained config (Standing config registry released) where
  config hs := hs.config
  entered hs p := { hs with absolute := Path.isAbsolute_text p }
  changed hs _ h := { hs with released := h.released.trans hs.released }
  noted hs _ := { hs with }
  heard hs _ := { hs with }
  hooked hs _ _ := { hs with }
  counted hs _ := { hs with }

end MemoryShell.Shell
