import MemoryShell.Text.CodePoint

set_option autoImplicit false

namespace MemoryShell

inductive Pattern
  | one (accepts : CodePoint → Bool)
  | run (accepts : CodePoint → Bool)
  | reluctant (accepts : CodePoint → Bool)
  | group (p : Pattern)
  | either (p q : Pattern)
  | next (p q : Pattern)
  | ending

namespace Pattern

/-- A way to match: the texts of the groups in order, and the characters behind the match. -/
structure Way where
  groups : List Text
  rest : Text

def rests (accepts : CodePoint → Bool) : Text → List Text
  | [] => [[]]
  | c :: cs => (c :: cs) :: if accepts c then rests accepts cs else []

/-- The ways to match at the front, in the order in which they are tried. The ending is the end of the
characters or their final Text.newline. -/
def ways : Pattern → Text → List Way
  | .one _, [] => []
  | .one accepts, c :: cs => if accepts c then [⟨[], cs⟩] else []
  | .run accepts, cs => (rests accepts cs).reverse.map fun rest => ⟨[], rest⟩
  | .reluctant accepts, cs => (rests accepts cs).map fun rest => ⟨[], rest⟩
  | .group p, cs =>
    (p.ways cs).map fun w => ⟨cs.take (cs.length - w.rest.length) :: w.groups, w.rest⟩
  | .either p q, cs => p.ways cs ++ q.ways cs
  | .next p q, cs =>
    (p.ways cs).flatMap fun w => (q.ways w.rest).map fun u => ⟨w.groups ++ u.groups, u.rest⟩
  | .ending, cs => if cs = [] ∨ cs = [Text.newline] then [⟨[], cs⟩] else []

def match? (p : Pattern) (cs : Text) : Option (List Text) :=
  (p.ways cs).head?.map Way.groups

@[simp] theorem ways_one_next_nil (accepts : CodePoint → Bool) (q : Pattern) :
    (next (one accepts) q).ways [] = [] := rfl

@[simp] theorem ways_one_next_cons (accepts : CodePoint → Bool) (q : Pattern) (c : CodePoint)
    (cs : Text) :
    (next (one accepts) q).ways (c :: cs) = if accepts c then q.ways cs else [] := by
  by_cases h : accepts c = true <;> simp [ways, h]

theorem groups_ways_next (p q : Pattern) (cs : Text) :
    ((next p q).ways cs).map Way.groups =
      (p.ways cs).flatMap fun w => ((q.ways w.rest).map Way.groups).map (w.groups ++ ·) := by
  simp [ways, List.map_flatMap, Function.comp_def]

theorem ways_next_ending (p : Pattern) (cs : Text) :
    (next p ending).ways cs = (p.ways cs).filter fun w => w.rest = [] ∨ w.rest = [Text.newline] := by
  rw [ways]
  induction p.ways cs with
  | nil => rfl
  | cons w ws ih =>
    rw [List.flatMap_cons, ih, List.filter_cons]
    by_cases h : w.rest = [] ∨ w.rest = [Text.newline] <;> simp [ways, h]

theorem ways_run_next (accepts : CodePoint → Bool) (q : Pattern) (cs : Text) :
    (next (run accepts) q).ways cs = (rests accepts cs).reverse.flatMap q.ways := by
  simp [ways, -List.map_reverse, List.flatMap_map]

def Way.behind (taken : Text) (w : Way) : Way :=
  ⟨taken :: w.groups, w.rest⟩

theorem ways_reluctant_group_next (accepts : CodePoint → Bool) (q : Pattern) (cs : Text) :
    (next (group (reluctant accepts)) q).ways cs =
      (rests accepts cs).flatMap fun rest =>
        (q.ways rest).map (Way.behind (cs.take (cs.length - rest.length))) := by
  unfold Way.behind
  simp [ways, List.flatMap_map]

theorem flatMap_rests_reverse {β : Type} {accepts : CodePoint → Bool} {f : Text → List β}
    (h : ∀ c cs, accepts c = true → f (c :: cs) = []) (cs : Text) :
    (rests accepts cs).reverse.flatMap f = f (cs.dropWhile accepts) := by
  induction cs with
  | nil => simp [rests]
  | cons c cs ih =>
    by_cases hc : accepts c = true
    · simp [rests, hc, ih, h c cs hc]
    · simp [rests, hc]

end Pattern

end MemoryShell
