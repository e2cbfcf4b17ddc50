import MemoryShell.Config
import MemoryShell.Isolate.Request
import MemoryShell.Text.CodePoint

/-!
The process of an isolate as the shell sees it: what arrives from it, and what the shell does about
it. Messages are served in order until the process says that it is done or has failed, until it
falls silent for ever, or until time is up. A reply is sent only to a process that is still there. Time runs from the first sign of readiness, so a limit
that leaves no time ends the service right there.
-/

set_option autoImplicit false

namespace MemoryShell.Isolate

/-- What an isolate says. What it writes is a text, but nothing keeps it from sending something else,
a message without its content, or a request whose arguments are no sequence. -/
inductive Message
  | ready
  | out (content : Json)
  | err (content : Json)
  | request (r : Request)
  | failed (content : Json)
  | done
  | unknown
  | misfit (f : Fault)

/-- What arrives from a process: a message, a request whose reply finds nobody because the process has
let go of its end of the pipe, nothing for a while, the end of its messages, or something that cannot
be received. -/
inductive Event
  | message (m : Message)
  | orphaned (r : Request)
  | idle
  | ended
  | unreceived (f : Failure)

/-- Why a process did not start: plain words, or a number and words with the files concerned; or
the details themselves do not fit. -/
inductive StartError
  | coded (code text : Json) (files : List Json)
  | plain (text : Text)
  | faulty (f : Fault)

def waitingCodes : List Int :=
  [11, 114, 115]

def isWaitingCode : Json → Bool
  | .integer code => waitingCodes.contains code
  | _ => false

/-- The files that a first and what follows it name: a file, something that is not shown, and a
second file. -/
def filesFrom (file : Json) : List Json → List Json
  | [_, .null] => [file]
  | [_, second] => [file, second]
  | _ => [file]

/-- The files concerned, by what follows the number and the words. Where something would have to
wait, a number in place of a file counts octets, and it has to be one that can. -/
def concernedFiles (code : Json) : List Json → Except Fault (List Json)
  | [] => .ok []
  | .null :: _ => .ok []
  | file :: rest =>
    if isWaitingCode code then
      match file with
      | .integer n =>
        if -Argument.sizeLimit ≤ n ∧ n < Argument.sizeLimit then .ok [] else .error .octetCount
      | .bool _ => .ok []
      | .real x => .error (.octetKind (Json.real x).kindName)
      | _ => .ok (filesFrom file rest)
    else .ok (filesFrom file rest)

/-- The reason that a list of details gives. -/
def StartError.ofDetails : List Json → StartError
  | [] => .plain []
  | [text] => .plain text.display
  | code :: text :: rest =>
    if rest.length ≤ 3 then
      match concernedFiles code rest with
      | .ok files => .coded code text files
      | .error f => .faulty f
    else .plain ↑("(" ++ ", ".intercalate ((code :: text :: rest).map Json.literal) ++ ")")

def StartError.ofValue (v : Json) : StartError :=
  match Mapping.items? v with
  | some details => .ofDetails details
  | none => .faulty (.iteration v.kindName)

/-- The failure of a start: an isolate cannot be had, unless the details do not fit. -/
def StartError.failure : StartError → Failure
  | .coded code text files => .allocation (.string ("無法配置 isolate: [Errno " ++ code.display
      ++ "] " ++ text.display
      ++ ↑(if files.isEmpty then "" else ": " ++ " -> ".intercalate (files.map Json.literal))))
  | .plain text => .allocation (.string ("無法配置 isolate: " ++ text))
  | .faulty f => .fault f

/-- How often each end of the pipe is let go of after a failed start. A misfit is not looked for
there. -/
def StartError.closed : StartError → Nat × Nat
  | .faulty _ => (0, 0)
  | _ => (1, 1)

/-- A process: what arrives from it, how it exits, whether it outlives its messages, and why it does
not start if it does not. -/
structure Process where
  events : List Event
  exitCode : Json
  outlives : Bool
  refusal : Option StartError

structure Output where
  out : Text
  err : Text
  deriving DecidableEq

/-- What serving a process comes to. -/
structure Service where
  out : List Json
  err : List Json
  replies : List Reply
  unread : Nat
  failure : Option Failure

def timeoutMessage : String := "Script execution timed out."

def exitMessage (exitCode : Json) : Text :=
  "isolate exited unexpectedly (exit code " ++ exitCode.display ++ ")"

def graceMs : Int := 500

def millisecondLimit : Int :=
  1000 * (Binary64.twoTo 1024 - Binary64.twoTo 970 : Nat)

def hasSeconds (n : Int) : Bool :=
  n.natAbs < millisecondLimit

/-- Whether a limit leaves no time at all; only numbers and truth values say how long it is. -/
def leavesNoTime : Json → Except Fault Bool
  | .integer n => if hasSeconds n then .ok (n + graceMs ≤ 0) else .error .longQuotient
  | .bool _ => .ok false
  | .real x => .ok (x.isAtMost (-graceMs))
  | v => .error (.operands "/" v.kindName "int")

def Service.ending (err : List Json) (unread : Nat) : Service :=
  ⟨[], err, [], unread, none⟩

def Service.failing (f : Failure) (unread : Nat) : Service :=
  ⟨[], [], [], unread, some f⟩

/-- Serves what arrives. The flag tells whether the process has been ready. -/
def serve (directory : Text) (now : Int) (timeoutMs exitCode : Json) :
    Bool → List Event → StateM Volume Service
  | _, [] => pure (.ending [.string (exitMessage exitCode)] 0)
  | _, .ended :: rest => pure (.ending [.string (exitMessage exitCode)] rest.length)
  | _, .message .done :: rest => pure (.ending [] rest.length)
  | _, .message (.failed content) :: rest => pure (.ending [content] rest.length)
  | _, .message (.misfit f) :: rest => pure (.failing (.fault f) rest.length)
  | _, .unreceived f :: rest => pure (.failing f rest.length)
  | true, .message .ready :: rest => serve directory now timeoutMs exitCode true rest
  | false, .message .ready :: rest =>
    match leavesNoTime timeoutMs with
    | .error f => pure (.failing (.fault f) rest.length)
    | .ok true => pure (.ending [.ofString timeoutMessage] rest.length)
    | .ok false => serve directory now timeoutMs exitCode true rest
  | wasReady, .message (.out content) :: rest => do
    let s ← serve directory now timeoutMs exitCode wasReady rest
    pure { s with out := content :: s.out }
  | wasReady, .message (.err content) :: rest => do
    let s ← serve directory now timeoutMs exitCode wasReady rest
    pure { s with err := content :: s.err }
  | wasReady, .message (.request r) :: rest => do
    match ← (r.answer directory now).run with
    | .error e => pure (.failing (.volume e) rest.length)
    | .ok reply =>
      let s ← serve directory now timeoutMs exitCode wasReady rest
      pure { s with replies := reply :: s.replies }
  -- the request is carried out before its reply is sent
  | _, .orphaned r :: rest => do
    match ← (r.answer directory now).run with
    | .error e => pure (.failing (.volume e) rest.length)
    | .ok _ => pure (.failing .brokenPipe rest.length)
  | wasReady, .message .unknown :: rest => serve directory now timeoutMs exitCode wasReady rest
  | wasReady, .idle :: rest => serve directory now timeoutMs exitCode wasReady rest

def written (contents : List Json) : Except Fault Text :=
  (Demand.texts 0 contents).map fun ts => Text.strip ts.flatten

/-- What a script wrote, unless the service failed or what was written is not text. -/
def Service.output (s : Service) : Except Failure Output :=
  match s.failure with
  | some f => .error f
  | none =>
    match written s.out, written s.err with
    | .ok out, .ok err => .ok ⟨out, err⟩
    | .error f, _ => .error (.fault f)
    | _, .error f => .error (.fault f)

/-- What is done with a process in the end. -/
inductive Disposal
  | kill
  | join (seconds : Nat)

def Disposal.words : Disposal → String
  | .kill => "kill"
  | .join seconds => "join " ++ String.ofList (Text.writeNat seconds)

def disposal (outlives : Bool) (unread : Nat) : List Disposal :=
  (if outlives || 0 < unread then [.kill] else []) ++ [.join 5]

/-- What a process was started with. It ends with its host if it is a daemon. -/
structure Launch where
  name : String
  params : String
  environment : Keyed Text
  limits : Limits
  daemon : Bool

/-- Everything that was done about one process. Each end of its pipe is let go of so many times. -/
structure Report where
  launch : Launch
  disposal : List Disposal
  replies : List Reply
  unread : Nat
  closed : Nat × Nat

def Report.unstarted (launch : Launch) (p : Process) (e : StartError) : Report :=
  ⟨launch, [], [], p.events.length, e.closed⟩

def Report.served (launch : Launch) (p : Process) (s : Service) : Report :=
  ⟨launch, Isolate.disposal p.outlives s.unread, s.replies, s.unread, (1, 1)⟩

end MemoryShell.Isolate
