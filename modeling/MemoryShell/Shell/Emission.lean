import MemoryShell.Shell.Basic

set_option autoImplicit false

namespace MemoryShell.Shell

/-- The channel of an event, which is given as a value. -/
def channelOf (event : Json) : ShellM Channel :=
  match Demand.key event with
  | .error f => throw (.fault f)
  | .ok _ =>
    match event.string?.bind Channel.ofName? with
    | some c => pure c
    | none => throw (.unknownEvent event.display)

def mention (id : Json) (actions : List ListenerAction) : ShellM Unit :=
  match Demand.key id with
  | .error f => throw (.fault f)
  | .ok _ => modify fun shell => { shell with listeners := shell.listeners.mention id actions }

def subscribe (event id : Json) (actions : List ListenerAction) : ShellM Unit := do
  mention id actions
  let c ← channelOf event
  modify fun shell => { shell with listeners := shell.listeners.subscribe c id }

def unsubscribe (event id : Json) : ShellM Unit := do
  mention id []
  let c ← channelOf event
  modify fun shell => { shell with listeners := shell.listeners.unsubscribe c id }

/-- What a listener does with a message, up to its first failure. -/
def react (id message : Json) : List ListenerAction → ShellM Unit
  | [] => pure ()
  | .log :: rest => do
    record (.logged (.value id message))
    react id message rest
  | .fail :: _ => throw (.raised .general none)
  | .subscribe event other actions :: rest => do
    subscribe event other actions
    react id message rest
  | .unsubscribe event other :: rest => do
    unsubscribe event other
    react id message rest

def hear (c : Channel) (message id : Json) : ShellM Unit := do
  record (.heard c id message)
  react id message ((← get).listeners.actionsOf id)

/-- Calls listeners with a message; their failures go no further. -/
def deliver (c : Channel) (message : Json) : List Json → ShellM Unit
  | [] => pure ()
  | id :: rest => do
    let _ ← attempt (hear c message id)
    deliver c message rest

def emit (c : Channel) (message : Json) : ShellM Json := do
  record (.emitted c message)
  deliver c message ((← get).listeners.subscriptions c)
  pure message

def complain (message : Text) : ShellM Json :=
  emit .stderr (.string (Message.prefixed message))

end MemoryShell.Shell
