import MemoryShell.Proofs.Shell.Surroundings

set_option autoImplicit false

namespace MemoryShell.Shell

/-- What listeners can do to a shell. -/
def Heard (s t : Shell) : Prop :=
  ∃ listeners steps, t = { s with listeners, trace := s.trace ++ steps }

theorem Heard.refl (s : Shell) : Heard s s :=
  ⟨s.listeners, [], by simp⟩

theorem attended_heard (first : Shell) :
    Attended (fun _ => True) fun s t => s = t ∧ Heard first s := by
  refine attended_self ?_ ?_
  · rintro s ⟨ls, steps, rfl⟩ st -
    exact ⟨ls, steps ++ [st], by simp [noted]⟩
  · rintro s ⟨_, steps, rfl⟩ ls
    exact ⟨ls, steps, rfl⟩

theorem deliver_ok (c : Channel) (message : Json) (ids : List Json) (s : Shell) :
    (outcome (deliver c message ids) s).1 = .ok () := by
  induction ids generalizing s with
  | nil => rfl
  | cons id rest ih => exact ih _

theorem outcome_emit (c : Channel) (message : Json) (s : Shell) :
    ∃ listeners steps, outcome (emit c message) s =
      (.ok message, { s with listeners, trace := s.trace ++ .emitted c message :: steps }) := by
  let first : Shell := noted (.emitted c message) s
  have hrun : outcome (emit c message) s =
      outcome (deliver c message (first.listeners.subscriptions c) >>= fun _ => pure message)
        first := rfl
  have hok := deliver_ok c message (first.listeners.subscriptions c) first
  have hkeeps : Keeps (Heard first) (fun _ => True)
      (deliver c message (first.listeners.subscriptions c)) :=
    Keeps.of_coupled_eq ((attended_heard first).deliver (fun _ => trivial) c message _)
  obtain ⟨-, ls, steps, hafter⟩ := hkeeps first (Heard.refl first)
  refine ⟨ls, steps, ?_⟩
  rw [hrun, outcome_bind]
  rcases hd : outcome (deliver c message (first.listeners.subscriptions c)) first with ⟨r, t⟩
  rw [hd] at hok hafter
  simp only at hok hafter
  rw [hok, hafter]
  simp [first, noted]

end MemoryShell.Shell
