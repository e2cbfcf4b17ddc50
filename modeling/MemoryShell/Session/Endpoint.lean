import MemoryShell.Address.Url
import MemoryShell.Json.Parser
import MemoryShell.Text.Decimal

set_option autoImplicit false

namespace MemoryShell

/-- Why a URL names no store. -/
inductive Endpoint.Error
  | url (e : Url.Error)
  | serviceNotNumber (shown : String)
  | serviceRange
  | databaseNotNumber (shown : String)
  | longNumber (digits : Nat)

/-- Where a store is found. -/
structure Endpoint where
  host : String
  service : Nat
  database : Int
  password : Option String
  deriving DecidableEq

namespace Endpoint

def shownLimit : Nat := 200

def Error.message : Error → String
  | .url e => e.message
  | .serviceNotNumber shown => "Port could not be cast to integer value as " ++ shown
  | .serviceRange => "Port out of range 0-65535"
  | .databaseNotNumber shown =>
    "invalid literal for int() with base 10: " ++ String.ofList (shown.toList.take shownLimit)
  | .longNumber digits => Json.longIntegerMessage digits

def usualUrl : String := "redis://localhost:6379"

def usualHost : String := "localhost"

def usualService : Nat := 6379

def greatestService : Nat := 65535

/-- The service that is written, if one is. -/
def readService : List Char → Except Error Nat
  | [] => .ok usualService
  | ds =>
    if !ds.all Char.isDigit then .error (.serviceNotNumber (Literal.ofString (String.ofList ds)))
    else if Json.digitLimit < ds.length then .error (.longNumber ds.length)
    else
      let service := Internet.decimal ds
      if greatestService < service then .error .serviceRange
      else .ok (if service = 0 then usualService else service)

/-- The database that a path names. Too many digits are complained about before what follows
them. -/
def readDatabase (path : List Char) : Except Error Int :=
  match path.dropWhile (· = '/') with
  | [] => .ok 0
  | cs =>
    let run := Text.digitRun (Text.unsigned (Text.stripNumber cs))
    if Text.isWellSpaced run && Json.digitLimit < Text.digitCount run then
      .error (.longNumber (Text.digitCount run))
    else
      match Text.readInt? cs with
      | some n => .ok n
      | none => .error (.databaseNotNumber (Literal.ofString (String.ofList cs)))

/-- The store that a URL names. -/
def ofUrl (s : String) : Except Error Endpoint :=
  match Url.parse s with
  | .error e => .error (.url e)
  | .ok u => do
    let service ← readService u.hostAndService.2
    let database ← readDatabase u.path
    pure ⟨u.host?.getD usualHost, service, database, u.password?⟩

end Endpoint

end MemoryShell
