import MemoryShell.Invocation.Basic

set_option autoImplicit false

namespace MemoryShell

/-- A call of a method by its name, with arguments by place. -/
structure Request where
  method : String
  args : List Argument

def Request.refusal? (r : Request) : Option Refusal :=
  r.args.findSome? Argument.refusal?

/-- What is answered to a request. -/
inductive Reply
  | value (v : Volume.Value)
  | failure (label : String) (message : Text)

namespace Request

def allowed : List Method := [
  .readFile, .writeFile, .stat, .linkStat, .readDirectory, .makeDirectory, .copyFile, .access]

def isAllowed (name : String) : Bool :=
  (allowed.map Method.name).contains name

def spellings (method : String) : Nat :=
  if method = Method.copyFile.name then 2 else 1

/-- An argument with its spelling resolved, if it has one. -/
def resolveArgument (directory : Text) : Argument → Except Volume.Error Argument
  | .value (.string t) =>
    match Path.resolve? directory t with
    | some p => .ok (.value (.string p.text))
    | none => .error (.relative (Path.join directory t))
  | a => .ok a

/-- A list of arguments with the leading ones resolved. -/
def resolveArguments (directory : Text) : Nat → List Argument → Except Volume.Error (List Argument)
  | 0, args => .ok args
  | _, [] => .ok []
  | n + 1, a :: args =>
    match resolveArgument directory a with
    | .error e => .error e
    | .ok b => (resolveArguments directory n args).map fun bs => b :: bs

def reply : Except Invocation.Error Volume.Value → Reply
  | .ok v => .value v
  | .error e => .failure e.label e.message

/-- The answer to a request. It fails outright only where the directory is no absolute spelling. -/
def answer (directory : Text) (now : Int) (r : Request) : VolumeM Reply :=
  if !isAllowed r.method then
    pure (.failure "PermissionError" (r.method ++ ": operation not permitted"))
  else
    match resolveArguments directory (spellings r.method) r.args with
    | .error e => throw e
    | .ok args => ExceptT.lift do
      return reply (← (Invocation.call .files now r.method args []).run)

end Request

end MemoryShell
