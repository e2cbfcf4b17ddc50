import MemoryShell.Failure
import MemoryShell.Text.Lowercase

set_option autoImplicit false

namespace MemoryShell

/-- Commands by lower-case name, in order of first registration. -/
structure Registry (α : Type) where
  entries : OrderedMap String α

namespace Registry

variable {α : Type}

def empty : Registry α :=
  ⟨[]⟩

def register (r : Registry α) (name : String) (command : α) : Registry α :=
  ⟨OrderedMap.insert r.entries (Text.lowercase name) command⟩

def resolve? (r : Registry α) (name : String) : Option α :=
  OrderedMap.find? r.entries name

def called? (r : Registry α) (name : Text) : Option α :=
  name.string?.bind r.resolve?

theorem called?_ofString (r : Registry α) (name : String) : r.called? name = r.resolve? name := by
  rw [called?, Text.string?_ofString, Option.bind_some]

theorem resolve?_of_called? {r : Registry α} {name : Text} {command : α}
    (h : r.called? name = some command) :
    ∃ key : String, name = key ∧ r.resolve? key = some command := by
  obtain ⟨key, hname, hkey⟩ := Option.bind_eq_some_iff.mp h
  exact ⟨key, Text.eq_ofString_of_string? hname, hkey⟩

def names (r : Registry α) : List String :=
  OrderedMap.keys r.entries

def contains (r : Registry α) (name : String) : Bool :=
  OrderedMap.contains r.entries name

def size (r : Registry α) : Nat :=
  r.entries.length

end Registry

/-- What may turn out to be a command. -/
inductive Candidate (α : Type)
  | command (c : α)
  | withoutBody
  | bodyNotAsynchronous
  | bodyNotCallable

def Candidate.validate {α : Type} (name : String) : Candidate α → Except Failure α
  | .command c => .ok c
  | _ => .error (.invalidCommand name)

/-- What a host offers: something that is made for the shell, or that refuses the shell. -/
inductive Offer (α : Type)
  | made (c : Candidate α)
  | refusesShell

def Offer.candidate {α : Type} : Offer α → Except Fault (Candidate α)
  | .made c => .ok c
  | .refusesShell => .error (.surplus "factory" 0 0 1)

def Offer.command {α : Type} (name : String) (offer : Offer α) : Except Failure α :=
  match offer.candidate with
  | .ok c => c.validate name
  | .error _ => .error (.invalidCommand name)

/-- The registry with every command that is offered; the first that is none is the failure. -/
def Registry.registerAll {α : Type} (r : Registry α) :
    List (String × Offer α) → Except Failure (Registry α)
  | [] => .ok r
  | (name, offer) :: rest =>
    match offer.command name with
    | .error e => .error e
    | .ok c => registerAll (r.register name c) rest

end MemoryShell
