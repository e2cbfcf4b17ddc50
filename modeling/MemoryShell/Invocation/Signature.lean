import MemoryShell.Invocation.Argument

set_option autoImplicit false

namespace MemoryShell

/-- What a method asks for. -/
structure Parameter where
  name : String
  usual : Option Json
  byNameOnly : Bool

namespace Parameter

def needed (name : String) : Parameter :=
  ⟨name, none, false⟩

def optional (name : String) (usual : Json) : Parameter :=
  ⟨name, some usual, false⟩

def named (name : String) (usual : Json) : Parameter :=
  ⟨name, some usual, true⟩

end Parameter

/-- Arguments by the names of their parameters. -/
abbrev Assignment := OrderedMap String Argument

namespace Assignment

def get (a : Assignment) (name : String) : Argument :=
  (OrderedMap.find? a name).getD (.value .null)

def ofPlaces (parameters : List Parameter) (placed : List Argument) : Assignment :=
  ((parameters.filter fun p => !p.byNameOnly).map Parameter.name).zip placed

def usual (parameters : List Parameter) (given : Assignment) : Assignment :=
  parameters.filterMap fun p =>
    if OrderedMap.contains given p.name then none
    else p.usual.map fun v => (p.name, .value v)

def missing (parameters : List Parameter) (given : Assignment) : List String :=
  (parameters.filter fun p => p.usual.isNone && !OrderedMap.contains given p.name).map
    Parameter.name

/-- The first name that is no parameter, or that is given by place as well. -/
def nameFault? (callee : String) (parameters : List Parameter) (placed : Assignment) :
    Assignment → Option Fault
  | [] => none
  | (name, _) :: rest =>
    if !(parameters.map Parameter.name).contains name then some (.unknownName callee name)
    else if OrderedMap.contains placed name then some (.repeatedName callee name)
    else nameFault? callee parameters placed rest

/-- Gives each parameter its argument. -/
def bind (callee : String) (parameters : List Parameter) (placed : List Argument)
    (named : Assignment) : Except Fault Assignment :=
  let places := parameters.filter fun p => !p.byNameOnly
  let needed := places.filter fun p => p.usual.isNone
  if places.length < placed.length then
    .error (.surplus callee needed.length places.length placed.length)
  else
    let byPlace := ofPlaces parameters placed
    match nameFault? callee parameters byPlace named with
    | some f => .error f
    | none =>
      let given := byPlace ++ named
      match missing parameters given with
      | [] => .ok (given ++ usual parameters given)
      | names => .error (.missing callee names)

end Assignment

end MemoryShell
