import MemoryShell.Isolate.Script

set_option autoImplicit false

namespace MemoryShell.Isolate

/-- What an isolate is set up with. -/
structure Setup where
  environment : Json
  timeoutMs : Json
  memoryLimitMb : Json

/-- Why an isolate is not set up: its time would be less than nothing, or a value does not fit. -/
inductive SetupError
  | negativeTime
  | fault (f : Fault)

namespace SetupError

def timeLabel : String := "itimer_error"

def timeCode : Nat := 22

def timeMessage : String := "Invalid argument"

end SetupError

def megabyteLimit : Int :=
  Argument.sizeLimit / megabyte

def grantedMegabytes : Json → Except Fault Int
  | .integer n =>
    if -megabyteLimit ≤ n ∧ n < megabyteLimit then .ok n else .error .machineWord
  | .bool b => .ok (Keyed.ofBool b)
  | v => .error (.operands "*" v.kindName "int")

def nanosPerMilli : Nat := 1000000

def microsPerMilli : Nat := 1000

/-- Checks the time that a whole number of milliseconds grants. -/
def checkWholeTime (n : Int) : Except SetupError Unit :=
  if !hasSeconds n then .error (.fault .longQuotient)
  else if Argument.sizeLimit < n.natAbs * nanosPerMilli then .error (.fault .timerRange)
  else if n < 0 then .error .negativeTime
  else .ok ()

/-- Checks the time that a number of milliseconds grants. Less than a microsecond below nothing
counts as nothing. -/
def checkTime (x : Binary64) : Except SetupError Unit :=
  if x = .nan then .error (.fault .timerNumber)
  else if !x.isMultipleAtMost nanosPerMilli Argument.sizeLimit
    || x.isMultipleAtMost nanosPerMilli (-Argument.sizeLimit - 1) then
    .error (.fault .timerRange)
  else if x.isMultipleAtMost microsPerMilli (-1) then .error .negativeTime
  else .ok ()

/-- Checks the time that a value grants. -/
def checkTimer : Json → Except SetupError Unit
  | .integer n => checkWholeTime n
  | .bool _ => .ok ()
  | .real x => checkTime x
  | v => .error (.fault (.operands "/" v.kindName "int"))

def Setup.surroundings (s : Setup) (directory : Text) (now : Int) :
    Except SetupError Surroundings :=
  match grantedMegabytes s.memoryLimitMb, Mapping.ofJson s.environment with
  | .error f, _ => .error (.fault f)
  | _, .error f => .error (.fault f)
  | .ok limit, .ok environment => .ok ⟨directory, now, environment, limit⟩

/-- Sets up an isolate and runs its script, unless its source could not be read. -/
def Setup.run (s : Setup) (directory : Text) (now : Int)
    (script : Except Source.Malformation (List Instruction)) :
    StateM Volume (Except SetupError Sight) :=
  match s.surroundings directory now, script with
  | .error e, _ => pure (.error e)
  | .ok _, .error m => pure (.ok (runBroken m))
  | .ok w, .ok instructions =>
    match checkTimer s.timeoutMs with
    | .error e => pure (.error e)
    | .ok () => Except.ok <$> Isolate.run w instructions

end MemoryShell.Isolate
