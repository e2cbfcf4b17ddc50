import MemoryShell.Failure

set_option autoImplicit false

namespace MemoryShell

/-- When a hook runs. -/
inductive Stage
  | before
  | after
  deriving DecidableEq

/-- What a hook does, step by step. It may change the list of arguments that it is given, in any way. -/
inductive HookAction
  | log
  | change (f : List Json → List Json)
  | fail (f : Failure)
  | register (command id : Json) (actions : List HookAction)
  | execute (line : Json)

def HookAction.append (arg : Json) : HookAction :=
  .change (· ++ [arg])

/-- A hook: an id for the log and what it does. -/
structure Hook where
  id : Json
  actions : List HookAction

/-- Hooks with the names of their commands, in order of registration. -/
abbrev HookPipeline := Keyed Hook

namespace HookPipeline

def register (p : HookPipeline) (command : Json) (h : Hook) : HookPipeline :=
  p ++ [(command, h)]

def hooksFor (p : HookPipeline) (command : Json) : List Hook :=
  (p.filter fun entry => Keyed.sameKey entry.1 command).map Prod.snd

end HookPipeline

end MemoryShell
