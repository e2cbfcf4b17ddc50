import MemoryShell.Shell.Basic

set_option autoImplicit false

namespace MemoryShell.Session

/-- A call of the client. -/
inductive Call
  | put (key : Text) (lifetime : Nat) (value : String)
  | get (key : Text)
  | delete (key : Text)
  | close

/-- What a client stores, whether it gives octets back, and the calls it got. -/
structure Store where
  entries : OrderedMap Text String
  inOctets : Bool
  calls : List Call

/-- What a client gives back. -/
inductive Payload
  | text (s : String)
  | octets (bs : Bytes)

def Payload.string : Payload → String
  | .text s => s
  | .octets bs => Utf8.decode bs

/-- Something done with a store. -/
abbrev StoreM := StateM Store

def lifetime : Nat := 86400

def key (session : Text) : Text :=
  "shell:" ++ session ++ ":volume"

namespace Store

def empty (inOctets : Bool) : Store :=
  ⟨[], inOctets, []⟩

def record (c : Call) : StoreM Unit :=
  modify fun s => { s with calls := s.calls ++ [c] }

def put (key : Text) (value : String) : StoreM Unit :=
  modify fun s => { s with entries := OrderedMap.insert s.entries key value }

def get? (s : Store) (key : Text) : Option Payload :=
  (OrderedMap.find? s.entries key).map fun value =>
    if s.inOctets then .octets (Utf8.encode value) else .text value

/-- Keeps the snapshot of a shell for a session. -/
def save (session : Text) (shell : Shell) : StoreM (Except Failure String) := do
  match Snapshot.write shell.volume with
  | .error e => pure (.error (.volume e))
  | .ok value =>
    record (.put (key session) lifetime value)
    put (key session) value
    pure (.ok value)

def load (session : Text) : StoreM (Option String) := do
  record (.get (key session))
  pure (((← get).get? (key session)).map Payload.string)

/-- Restores the snapshot of a session into a shell, if there is one. -/
def restoreInto (session : Text) (shell : Shell) : StoreM (Except Failure Bool × Shell) := do
  match ← load session with
  | none => pure (.ok false, shell)
  | some s =>
    let (r, after) := (Shell.restore (.ofString s)).run.run shell
    pure (r.map fun _ => true, after)

def reset (session : Text) : StoreM Unit := do
  record (.delete (key session))
  modify fun s => { s with entries := OrderedMap.erase s.entries (key session) }

def close : StoreM Unit :=
  record .close

end Store

end MemoryShell.Session
