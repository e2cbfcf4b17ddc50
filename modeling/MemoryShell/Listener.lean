import MemoryShell.Json.Key

set_option autoImplicit false

namespace MemoryShell

inductive Channel
  | stdout
  | stderr
  deriving DecidableEq

def Channel.name : Channel → String
  | .stdout => "stdout"
  | .stderr => "stderr"

def Channel.ofName? : String → Option Channel
  | "stdout" => some .stdout
  | "stderr" => some .stderr
  | _ => none

/-- What a listener does with a message, step by step. -/
inductive ListenerAction
  | log
  | fail
  | subscribe (event id : Json) (actions : List ListenerAction)
  | unsubscribe (event id : Json)

/-- The known listeners and the subscriptions of both channels, in order. -/
structure Listeners where
  known : Keyed (List ListenerAction)
  stdout : List Json
  stderr : List Json

namespace Listeners

def empty : Listeners :=
  ⟨[], [], []⟩

def subscriptions (ls : Listeners) : Channel → List Json
  | .stdout => ls.stdout
  | .stderr => ls.stderr

def change (ls : Listeners) (f : List Json → List Json) : Channel → Listeners
  | .stdout => { ls with stdout := f ls.stdout }
  | .stderr => { ls with stderr := f ls.stderr }

def mention (ls : Listeners) (id : Json) (actions : List ListenerAction) : Listeners :=
  if (Keyed.find? ls.known id).isSome then ls
  else { ls with known := Keyed.insert ls.known id actions }

def actionsOf (ls : Listeners) (id : Json) : List ListenerAction :=
  (Keyed.find? ls.known id).getD []

def subscribe (ls : Listeners) (c : Channel) (id : Json) : Listeners :=
  ls.change (· ++ [id]) c

def unsubscribe (ls : Listeners) (c : Channel) (id : Json) : Listeners :=
  ls.change (·.eraseP fun other => Keyed.sameKey other id) c

end Listeners

end MemoryShell
