import MemoryShell.Json.Mapping

set_option autoImplicit false

namespace MemoryShell

/-- Why parameters cannot travel. -/
inductive Params.Error
  | notMapping (f : Fault)
  | unsupported (kind : String)
  | circular
  | keyKind (kind : String)
  deriving DecidableEq

/-- The parameters of a call. -/
inductive Params
  | value (v : Json)
  | unserializable (reason : Params.Error)

namespace Params

def Error.reason : Error → String
  | .notMapping f => f.message
  | .unsupported kind => "Object of type " ++ kind ++ " is not JSON serializable"
  | .circular => "Circular reference detected"
  | .keyKind kind => "keys must be str, int, float, bool or None, not " ++ kind

def Error.message (e : Error) : String :=
  "參數無法傳入沙箱: " ++ e.reason

/-- The JSON text of the parameters; an empty value counts as an empty object. -/
def render : Params → Except Error String
  | .value v =>
    match Mapping.ofJson (if v.isTruthy then v else .object []) with
    | .ok m => .ok (Json.object (Keyed.fields m)).print
    | .error f => .error (.notMapping f)
  | .unserializable reason => .error reason

end Params

end MemoryShell
