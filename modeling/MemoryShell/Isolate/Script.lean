import MemoryShell.Isolate.Process

/-!
The inside of an isolate: a script of instructions, run one after another. Everything that leaves
the isolate is a message, and calls of file methods wait for their replies. The first failure ends
the script; running out of time or memory has words of its own.
-/

set_option autoImplicit false

namespace MemoryShell.Isolate

/-- What a script may do. -/
inductive Instruction
  | log (args : List Json)
  | error (args : List Json)
  | call (method : String) (args : List Argument)
  | attempt (method : String) (args : List Argument)
  | raise (label : String) (detail : Json)
  | environment (key : Json)
  | arguments
  | spin
  | allocate (size : Json)
  | open
  | load
  | remove
  | nothing
  | incomplete

inductive ScriptError
  | timeout
  | memory
  | failure (label : String) (text : Text)
  | directory (e : Volume.Error)

def ScriptError.message : ScriptError → Text
  | .timeout => timeoutMessage
  | .memory => "MemoryError: isolate memory limit exceeded"
  | .failure label text => label ++ ": " ++ text
  | .directory e => e.label ++ ": " ++ e.message

def keptLabels : List String := [
  "FileExistsError", "FileNotFoundError", "IsADirectoryError", "NotADirectoryError",
  "PermissionError"]

def keptLabel (label : String) : String :=
  if keptLabels.contains label then label else "OSError"

def notOffered (name : String) : ScriptError :=
  .failure "AttributeError" ↑("'_FsProxy' object has no attribute " ++ Literal.ofString name)

def ScriptError.ofRaise (label : String) (detail : Json) : ScriptError :=
  if label = "MemoryError" then .memory
  else if label = "KeyError" then .failure label detail.literal
  else .failure label detail.display

def ScriptError.ofFault (f : Fault) : ScriptError :=
  .failure f.label f.message

/-- The world of a script: the files it reaches, the values it is given and its limits. -/
structure Surroundings where
  directory : Text
  now : Int
  environment : Mapping
  memoryLimitMb : Int

def line (args : List Json) : Text :=
  List.intercalate (Text.ofString " ") (args.map Json.display) ++ "\n"

def megabyte : Int := 0x100000

/-- What an instruction comes to: the messages it sends, and why it ends the script if it does. -/
abbrev Effect := List Message × Option ScriptError

def prints (text : Text) : Effect :=
  ([.out (.string (text ++ "\n"))], none)

def stops (e : ScriptError) : Effect :=
  ([], some e)

/-- Calls a file method; what follows depends on whether a failure of files is caught. A request that
cannot be sent ends the script. -/
def callFiles (w : Surroundings) (caught : Bool) (method : String) (args : List Argument) :
    StateM Volume Effect := do
  if !Request.isAllowed method then return stops (notOffered method)
  let request : Request := ⟨method, args⟩
  if let some e := request.refusal? then return stops (.failure e.label e.words)
  let sent := Message.request request
  match ← (request.answer w.directory w.now).run with
  | .error e => return ([sent], some (.directory e))
  | .ok (.value v) => return (sent :: (prints v.display).1, none)
  | .ok (.failure label text) =>
    if caught then return (sent :: (prints (keptLabel label ++ " " ++ text)).1, none)
    else return ([sent], some (.failure (keptLabel label) text))

/-- The number of octets that a value asks for. -/
def sizeOf : Json → Except Fault Int
  | .integer n =>
    if n < -Argument.sizeLimit ∨ Argument.sizeLimit ≤ n then .error .oversize
    else if n < 0 then .error .negativeSize
    else .ok n
  | .bool b => .ok (Keyed.ofBool b)
  | .string _ => .error .unencoded
  | .array items =>
    match items.mapM Argument.octet with
    | .ok octets => .ok octets.length
    | .error .octetRange => .error .byteRange
    | .error f => .error f
  | .object [] => .ok 0
  | .object _ => .error (.octetKind "str")
  | v => .error (.unallocatable v.kindName)

def allocates (w : Surroundings) (size : Json) : Effect :=
  match sizeOf size with
  | .error f => stops (.ofFault f)
  | .ok n => if w.memoryLimitMb * megabyte ≤ n then stops .memory else prints size.display

def Instruction.run (w : Surroundings) : Instruction → StateM Volume Effect
  | .log args => pure ([.out (.string (line args))], none)
  | .error args => pure ([.err (.string (line args))], none)
  | .call method args => callFiles w false method args
  | .attempt method args => callFiles w true method args
  | .raise label detail => pure (stops (.ofRaise label detail))
  | .environment key =>
    pure (match Demand.key key with
      | .error f => stops (.ofFault f)
      | .ok key =>
        match Keyed.find? w.environment key with
        | some value => prints value.display
        | none => stops (.failure "KeyError" key.literal))
  | .arguments => pure (prints (Json.array []).display)
  | .spin => pure (stops .timeout)
  | .allocate size => pure (allocates w size)
  | .open => pure (stops (.failure "NameError" "name 'open' is not defined"))
  | .load => pure (stops (.failure "ImportError" "__import__ not found"))
  | .remove => pure (stops (notOffered "rm"))
  | .nothing => pure ([], none)
  | .incomplete => pure (stops (.ofFault (.outOfRange "list")))

/-- Runs a script to its end; the last message tells how it ended. -/
def runScript (w : Surroundings) : List Instruction → StateM Volume (List Message)
  | [] => pure [.done]
  | i :: rest => do
    match ← i.run w with
    | (sent, some e) => return sent ++ [.failed (.string e.message)]
    | (sent, none) => return sent ++ (← runScript w rest)

/-- What is seen of an isolate from outside: its messages, how often it let go of its end of the
pipe, and whether the environment of its host was cleared away. -/
structure Sight where
  messages : List Message
  closed : Nat
  environmentCleared : Bool

def run (w : Surroundings) (script : List Instruction) : StateM Volume Sight := do
  let messages ← runScript w script
  return ⟨.ready :: messages, 1, true⟩

def runBroken (m : Source.Malformation) : Sight :=
  ⟨[.failed (.ofString ("SyntaxError: " ++ m.reason))], 1, true⟩

end MemoryShell.Isolate
