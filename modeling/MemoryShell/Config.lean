import MemoryShell.Demand
import MemoryShell.Failure
import MemoryShell.Json.Mapping

set_option autoImplicit false

namespace MemoryShell

/-- The limits of a run in an isolate. -/
structure Limits where
  timeoutMs : Json
  memoryLimitMb : Json

def Limits.usual : Limits :=
  ⟨.integer 1000, .integer 128⟩

/-- What a host says about a shell. -/
structure Settings where
  snapshot : Json
  directory : Json
  user : Json
  environment : Json
  limits : Limits

/-- The settings of a shell that are checked. -/
structure Config where
  snapshot : Json
  directory : Text
  user : Json
  environment : Mapping
  limits : Limits

namespace Settings

def usual : Settings :=
  ⟨.null, .string [slash], .ofString "guest", .object [], .usual⟩

/-- The settings with one of them changed, if there is one of that name. -/
def change? (s : Settings) (value : Json) : String → Option Settings
  | "serialized_volume" => some { s with snapshot := value }
  | "current_directory" => some { s with directory := value }
  | "user" => some { s with user := value }
  | "environment" => some { s with environment := value }
  | "sandbox_timeout_ms" => some { s with limits := { s.limits with timeoutMs := value } }
  | "sandbox_memory_limit_mb" => some { s with limits := { s.limits with memoryLimitMb := value } }
  | _ => none

/-- The settings with several of them changed by name. -/
def ofFields (s : Settings) : List (Text × Json) → Except Failure Settings
  | [] => .ok s
  | (name, value) :: rest =>
    match s.change? value name.toString with
    | some s => ofFields s rest
    | none => .error (.fault (.unknownName "ShellConfig.__init__" name.toString))

/-- Whether a limit leaves nothing; only numbers and truth values can be compared with zero. -/
def isAtMostZero : Json → Except Fault Bool
  | .integer n => .ok (n ≤ 0)
  | .bool b => .ok !b
  | .real x => .ok (x.isAtMost 0)
  | v => .error (.order "<=" v.kindName "int")

def checkLimit (e : ConfigError) (limit : Json) : Except Failure Unit :=
  match isAtMostZero limit with
  | .error f => .error (.fault f)
  | .ok true => .error (.config e)
  | .ok false => .ok ()

def checkDirectory (v : Json) : Except Failure Text :=
  match Demand.spelling v with
  | .error f => .error (.fault f)
  | .ok t => if Path.isAbsolute t then .ok t else .error (.config (.relativeDirectory t))

def checkEnvironment (v : Json) : Except Failure Mapping :=
  match Mapping.ofJson v with
  | .ok m => .ok m
  | .error f => .error (.fault f)

/-- The first thing that is wrong, or the configuration. -/
def check (s : Settings) : Except Failure Config := do
  let directory ← checkDirectory s.directory
  checkLimit .timeout s.limits.timeoutMs
  checkLimit .memoryLimit s.limits.memoryLimitMb
  let environment ← checkEnvironment s.environment
  pure ⟨s.snapshot, directory, s.user, environment, s.limits⟩

end Settings

namespace Config

/-- The entries of the environment that are strings. -/
def strings (environment : Mapping) : Keyed Text :=
  environment.filterMap fun entry =>
    match entry.2 with
    | .string t => some (entry.1, t)
    | _ => none

def searchPaths (t : Text) : List Text :=
  (t.split (.ofChar ':')).filter (· ≠ [])

end Config

end MemoryShell
