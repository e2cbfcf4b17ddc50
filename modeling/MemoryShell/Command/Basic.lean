import MemoryShell.Isolate.Process
import MemoryShell.Source.Reading

set_option autoImplicit false

namespace MemoryShell

/-- The commands that every shell can have. -/
inductive Builtin
  | cat
  | cd
  | cp
  | echo
  | mkdir
  | rm
  | touch
  deriving DecidableEq

def Builtin.name : Builtin → String
  | .cat => "cat"
  | .cd => "cd"
  | .cp => "cp"
  | .echo => "echo"
  | .mkdir => "mkdir"
  | .rm => "rm"
  | .touch => "touch"

def Builtin.all : List Builtin :=
  [.cat, .cd, .cp, .echo, .mkdir, .rm, .touch]

def Builtin.ofName? (name : String) : Option Builtin :=
  all.find? fun b => b.name = name

/-- A function to be run in an isolate, with the process that will run it. -/
structure IsolateCall where
  origin : Source.Origin
  params : Params
  timeoutMs : Option Json
  memoryLimitMb : Option Json
  process : Isolate.Process

/-- A command. -/
inductive Command
  | builtin (b : Builtin)
  | say (output : Json)
  | refuse (kind : ErrorKind) (message : Json)
  | fail (f : Failure)
  | user
  | resolve
  | searchPaths
  | names
  | environment
  | arguments
  | evaluate
  | script (call : IsolateCall)

/-- What a command comes to, if it does not fail outright: an output, which a host's command may
give as a value of any kind, or a refusal with its words. -/
inductive Outcome
  | output (value : Json)
  | refused (kind : ErrorKind) (message : Text)

def Outcome.text (t : Text) : Outcome :=
  .output (.string t)

end MemoryShell
