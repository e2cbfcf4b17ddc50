import MemoryShell.Fault
import MemoryShell.Isolate.Params
import MemoryShell.Source.Function
import MemoryShell.Message
import MemoryShell.Volume.Snapshot

/-!
Why something the shell is asked for fails. A failure has a class, by which callers tell it from
others, and words, which are empty when nothing was said.
-/

set_option autoImplicit false

namespace MemoryShell

/-- The classes of failure that hooks and host commands choose from. -/
inductive RaisedClass
  | general
  | runtime
  | value
  | key
  deriving DecidableEq

def RaisedClass.label : RaisedClass → String
  | .general => "Exception"
  | .runtime => "RuntimeError"
  | .value => "ValueError"
  | .key => "KeyError"

def RaisedClass.ofLabel? : String → Option RaisedClass
  | "Exception" => some .general
  | "RuntimeError" => some .runtime
  | "ValueError" => some .value
  | "KeyError" => some .key
  | _ => none

def RaisedClass.words (c : RaisedClass) (detail : Json) : Text :=
  if c = .key then ↑detail.literal else detail.display

/-- What is wrong with a configuration. -/
inductive ConfigError
  | relativeDirectory (directory : Text)
  | timeout
  | memoryLimit
  deriving DecidableEq

def ConfigError.message : ConfigError → Text
  | .relativeDirectory directory => "current_directory 必須是絕對路徑: " ++ directory
  | .timeout => "sandbox_timeout_ms 必須大於 0"
  | .memoryLimit => "sandbox_memory_limit_mb 必須大於 0"

/-- Why a request to the shell fails. -/
inductive Failure
  | volume (e : Volume.Error)
  | snapshot (e : Snapshot.Error)
  | config (e : ConfigError)
  | invalidCommand (name : String)
  | shell (kind : ErrorKind) (message : Json)
  | raised (sort : RaisedClass) (detail : Option Json)
  | unimplemented
  | unknownEvent (name : Text)
  | source (e : Source.Error)
  | params (e : Params.Error)
  | allocation (message : Json)
  | fault (f : Fault)
  | brokenPipe
  | tooDeep

namespace Failure

def label : Failure → String
  | .volume e => e.label
  | .snapshot e => e.label
  | .config _ => "ValueError"
  | .invalidCommand _ => "InvalidCommandClassError"
  | .shell _ _ => "ShellError"
  | .raised sort _ => sort.label
  | .unimplemented => "NotImplementedError"
  | .unknownEvent _ => "ValueError"
  | .source e => e.label
  | .params _ => "ValueError"
  | .allocation _ => "SandboxAllocationError"
  | .fault f => f.label
  | .brokenPipe => "BrokenPipeError"
  | .tooDeep => "RecursionError"

def said (v : Json) : Text :=
  if v.isTruthy then v.display else []

def message : Failure → Text
  | .volume e => e.message
  | .snapshot e => e.message
  | .config e => e.message
  | .invalidCommand name => Message.invalidCommandClass name
  | .shell _ message => said message
  | .raised sort detail => (detail.map sort.words).getD []
  | .unimplemented => "Execute method not implemented."
  | .unknownEvent name => "未知的事件: " ++ name
  | .source e => e.message
  | .params e => e.message
  | .allocation message => said message
  | .fault f => f.message
  | .brokenPipe => "[Errno 32] Broken pipe"
  | .tooDeep => "maximum recursion depth exceeded"

def detail : Failure → Json
  | .shell _ message => message
  | .allocation message => message
  | f => .string f.message

def kind? : Failure → Option ErrorKind
  | .invalidCommand _ => some .invalidCommandClass
  | .shell kind _ => some kind
  | .allocation _ => some .unknown
  | _ => none

def file? : Failure → Option (Errno × Text)
  | .volume (.file e path) => some (e, path)
  | .snapshot (.volume (.file e path)) => some (e, path)
  | _ => none

end Failure

end MemoryShell
