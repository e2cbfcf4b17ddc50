import MemoryShell.Proofs.Outcome

set_option autoImplicit false

namespace MemoryShell

variable {ε ε' σ α β : Type}

/-- The program leaves every state as it is, whether it fails or not. -/
def Looks (x : ExceptT ε (StateM σ) α) : Prop :=
  ∀ s, (outcome x s).2 = s

/-- The program leaves the state as it is if it fails. -/
def AllOrNothing (x : ExceptT ε (StateM σ) α) : Prop :=
  ∀ s e, (outcome x s).1 = .error e → (outcome x s).2 = s

namespace Looks

theorem pure (a : α) : Looks (Pure.pure a : ExceptT ε (StateM σ) α) :=
  fun _ => rfl

theorem throw (e : ε) : Looks (MonadExcept.throw e : ExceptT ε (StateM σ) α) :=
  fun _ => rfl

theorem bind {x : ExceptT ε (StateM σ) α} {f : α → ExceptT ε (StateM σ) β} (hx : Looks x)
    (hf : ∀ a, Looks (f a)) : Looks (x >>= f) := by
  intro s
  have hafter : (outcome x s).2 = s := hx s
  rw [outcome_bind]
  rcases hrun : outcome x s with ⟨e | a, t⟩
  · rw [hrun] at hafter
    exact hafter
  · rw [hrun] at hafter
    exact (hf a t).trans hafter

theorem attempt {x : ExceptT ε (StateM σ) α} (hx : Looks x) : Looks (MemoryShell.attempt x) :=
  hx

theorem adapt {x : ExceptT ε (StateM σ) α} (hx : Looks x) (f : ε → ε') :
    Looks (ExceptT.adapt f x) :=
  hx

theorem map {x : ExceptT ε (StateM σ) α} (hx : Looks x) (f : α → β) : Looks (f <$> x) := by
  rw [map_eq_pure_bind]
  exact hx.bind fun a => pure (f a)

end Looks

namespace AllOrNothing

theorem of_looks {x : ExceptT ε (StateM σ) α} (h : Looks x) : AllOrNothing x :=
  fun s _ _ => h s

theorem of_ok {x : ExceptT ε (StateM σ) α} (h : ∀ s, ∃ a, (outcome x s).1 = .ok a) :
    AllOrNothing x := by
  intro s e he
  obtain ⟨a, ha⟩ := h s
  rw [ha] at he
  cases he

theorem throw (e : ε) : AllOrNothing (MonadExcept.throw e : ExceptT ε (StateM σ) α) :=
  of_looks (.throw e)

theorem bind_looks {x : ExceptT ε (StateM σ) α} {f : α → ExceptT ε (StateM σ) β} (hx : Looks x)
    (hf : ∀ a, AllOrNothing (f a)) : AllOrNothing (x >>= f) := by
  intro s e he
  have hafter : (outcome x s).2 = s := hx s
  rw [outcome_bind] at he ⊢
  rcases hrun : outcome x s with ⟨e' | a, t⟩
  · rw [hrun] at hafter
    exact hafter
  · rw [hrun] at hafter he
    exact (hf a t e he).trans hafter

theorem bind_pure {x : ExceptT ε (StateM σ) α} (hx : AllOrNothing x) (f : α → β) :
    AllOrNothing (x >>= fun a => Pure.pure (f a)) := by
  intro s e he
  rw [outcome_bind] at he ⊢
  rcases hrun : outcome x s with ⟨e' | a, t⟩
  · have hafter := hx s e'
    rw [hrun] at hafter
    exact hafter rfl
  · rw [hrun] at he
    cases he

theorem adapt {x : ExceptT ε (StateM σ) α} (hx : AllOrNothing x) (f : ε → ε') :
    AllOrNothing (ExceptT.adapt f x) := by
  intro s e he
  rw [outcome_adapt] at he ⊢
  cases hr : (outcome x s).1 with
  | error e' => exact hx s e' hr
  | ok a =>
    rw [hr] at he
    cases he

end AllOrNothing

end MemoryShell
