import MemoryShell.Shell.Basic

set_option autoImplicit false

namespace MemoryShell.Shell

def hooksAt (shell : Shell) : Stage → HookPipeline
  | .before => shell.hooksBefore
  | .after => shell.hooksAfter

def registerHook (stage : Stage) (command : Json) (h : Hook) : ShellM Unit :=
  match Demand.key command with
  | .error f => throw (.fault f)
  | .ok _ =>
    modify fun shell =>
      match stage with
      | .before => { shell with hooksBefore := shell.hooksBefore.register command h }
      | .after => { shell with hooksAfter := shell.hooksAfter.register command h }

def hookEntry (id : Json) (args : List Json) : Option Json → LogEntry
  | none => .args id args
  | some output => .argsAndOutput id args output

/-- Does what a hook does, on its own list of arguments. -/
def runActions (execute : Json → ShellM Json) (stage : Stage) (id : Json)
    (output : Option Json) : List Json → List HookAction → ShellM Unit
  | _, [] => pure ()
  | args, .log :: rest => do
    record (.logged (hookEntry id args output))
    runActions execute stage id output args rest
  | args, .change f :: rest => runActions execute stage id output (f args) rest
  | _, .fail f :: _ => throw f
  | args, .register command other actions :: rest => do
    registerHook stage command ⟨other, actions⟩
    runActions execute stage id output args rest
  | args, .execute line :: rest => do
    let result ← execute line
    record (.logged (.value id result))
    runActions execute stage id output args rest

/-- Runs hooks one after another. -/
def runEach (execute : Json → ShellM Json) (stage : Stage) (command : Json)
    (args : List Json) (output : Option Json) : List Hook → ShellM Unit
  | [] => pure ()
  | h :: rest => do
    record (.hookStarted stage command h.id args)
    runActions execute stage h.id output args h.actions
    runEach execute stage command args output rest

def runHooks (execute : Json → ShellM Json) (stage : Stage) (command : Json)
    (args : List Json) (output : Option Json) : ShellM Unit := do
  let hooks := ((← get).hooksAt stage).hooksFor command
  runEach execute stage command args output hooks

end MemoryShell.Shell
