import MemoryShell.Shell.Basic

set_option autoImplicit false

namespace MemoryShell

def IsolateCall.limits (call : IsolateCall) (base : Limits) : Limits :=
  ⟨call.timeoutMs.getD base.timeoutMs, call.memoryLimitMb.getD base.memoryLimitMb⟩

namespace Shell

/-- What a process is started with, or why there is nothing to start. -/
def launch (call : IsolateCall) (limits : Limits) : ShellM Isolate.Launch := do
  match Source.Function.ofOrigin Source.Function.room call.origin with
  | .error e => throw (.source e)
  | .ok (function, _) =>
    match call.params.render with
    | .error e => throw (.params e)
    | .ok params =>
      pure ⟨function.name, params, Config.strings (← get).config.environment, limits, true⟩

def countIsolate (change : Int) : ShellM Unit :=
  modify fun shell => { shell with activeIsolates := shell.activeIsolates + change }

def serve (process : Isolate.Process) (limits : Limits) : ShellM Isolate.Service := do
  let directory := (← get).directory
  onVolume fun now => ExceptT.lift
    (Isolate.serve directory now limits.timeoutMs process.exitCode false process.events)

/-- Runs a function in an isolate and gives back what it wrote. -/
def runIsolate (call : IsolateCall) (limits : Limits) : ShellM Isolate.Output := do
  let start ← launch call limits
  match call.process.refusal with
  | some e =>
    record (.isolated (.unstarted start call.process e))
    throw e.failure
  | none =>
    countIsolate 1
    let service ← serve call.process limits
    record (.isolated (.served start call.process service))
    countIsolate (-1)
    match service.output with
    | .ok output => pure output
    | .error f => throw f

end Shell

end MemoryShell
