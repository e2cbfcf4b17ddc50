import MemoryShell.Text.CombiningClass
import MemoryShell.Text.Decomposition

set_option autoImplicit false

namespace MemoryShell.Text

/-- Puts a character in front of an ordered list. A mark goes past the marks of lower classes. -/
def placeMark (c : Char) : List Char → List Char
  | [] => [c]
  | d :: ds =>
    if combiningClass d ≠ 0 && combiningClass d < combiningClass c then d :: placeMark c ds
    else c :: d :: ds

def orderMarks : List Char → List Char
  | [] => []
  | c :: cs => placeMark c (orderMarks cs)

def isBlocked (kept : List Char) (c : Char) : Bool :=
  match kept.getLast? with
  | none => false
  | some mark => combiningClass c ≤ combiningClass mark

/-- Composes a starter with what follows it; the marks that it was not composed with are kept. -/
def composeFrom (starter : Char) (kept : List Char) : List Char → List Char
  | [] => starter :: kept
  | c :: cs =>
    match if isBlocked kept c then none else compose? starter c with
    | some composed => composeFrom composed kept cs
    | none =>
      if combiningClass c = 0 then starter :: kept ++ composeFrom c [] cs
      else composeFrom starter (kept ++ [c]) cs

def composeMarks : List Char → List Char
  | [] => []
  | c :: cs => if combiningClass c = 0 then composeFrom c [] cs else c :: composeMarks cs

def normalForm (s : String) : String :=
  if s.toList.all fun c => c.toNat < 0x80 then s
  else String.ofList (composeMarks (orderMarks (s.toList.flatMap decompose)))

end MemoryShell.Text
