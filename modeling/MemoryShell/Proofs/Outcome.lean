import MemoryShell.Volume.Basic

set_option autoImplicit false

namespace MemoryShell

variable {ε σ α β : Type}

@[simp] theorem mapError_ok {ε' : Type} (f : ε → ε') (a : α) :
    Except.mapError f (.ok a) = .ok a := rfl

@[simp] theorem mapError_error {ε' : Type} (f : ε → ε') (e : ε) :
    Except.mapError f (.error e : Except ε α) = .error (f e) := rfl

theorem ok_of_bind_ok {x : Except ε α} {f : α → Except ε β} {b : β} (h : x >>= f = .ok b) :
    ∃ a, x = .ok a ∧ f a = .ok b := by
  cases x with
  | error e => cases h
  | ok a => exact ⟨a, rfl, h⟩

theorem ok_of_map_ok {x : Except ε α} {f : α → β} {b : β} (h : x.map f = .ok b) :
    ∃ a, x = .ok a ∧ f a = b := by
  cases x with
  | error e => cases h
  | ok a => exact ⟨a, rfl, Except.ok.inj h⟩

theorem error_of_map_error {x : Except ε α} {f : α → β} {e : ε} (h : x.map f = .error e) :
    x = .error e := by
  cases x with
  | error e' => rw [Except.error.inj h]
  | ok a => cases h

def outcome (x : ExceptT ε (StateM σ) α) (s : σ) : Except ε α × σ :=
  x.run.run s

@[simp] theorem outcome_pure (a : α) (s : σ) :
    outcome (pure a : ExceptT ε (StateM σ) α) s = (.ok a, s) := rfl

@[simp] theorem outcome_throw (e : ε) (s : σ) :
    outcome (throw e : ExceptT ε (StateM σ) α) s = (.error e, s) := rfl

@[simp] theorem outcome_get (s : σ) :
    outcome (get : ExceptT ε (StateM σ) σ) s = (.ok s, s) := rfl

@[simp] theorem outcome_set (t s : σ) :
    outcome (set t : ExceptT ε (StateM σ) PUnit) s = (.ok ⟨⟩, t) := rfl

@[simp] theorem outcome_modify (f : σ → σ) (s : σ) :
    outcome (modify f : ExceptT ε (StateM σ) PUnit) s = (.ok ⟨⟩, f s) := rfl

theorem outcome_bind (x : ExceptT ε (StateM σ) α) (f : α → ExceptT ε (StateM σ) β) (s : σ) :
    outcome (x >>= f) s =
      match outcome x s with
      | (.ok a, t) => outcome (f a) t
      | (.error e, t) => (.error e, t) := by
  unfold outcome
  rcases h : x.run.run s with ⟨r, t⟩
  cases r with
  | ok a =>
    simp only [ExceptT.run_bind, StateT.run_bind, h]
    rfl
  | error e =>
    simp only [ExceptT.run_bind, StateT.run_bind, h]
    rfl

theorem outcome_bind_ok {x : ExceptT ε (StateM σ) α} {s t : σ} {a : α}
    (h : outcome x s = (.ok a, t)) (f : α → ExceptT ε (StateM σ) β) :
    outcome (x >>= f) s = outcome (f a) t := by
  rw [outcome_bind, h]

theorem outcome_bind_error {x : ExceptT ε (StateM σ) α} {s t : σ} {e : ε}
    (h : outcome x s = (.error e, t)) (f : α → ExceptT ε (StateM σ) β) :
    outcome (x >>= f) s = (.error e, t) := by
  rw [outcome_bind, h]

theorem fst_outcome_bind_error {x : ExceptT ε (StateM σ) α} {s : σ} {e : ε}
    (h : (outcome x s).1 = .error e) (f : α → ExceptT ε (StateM σ) β) :
    (outcome (x >>= f) s).1 = .error e := by
  have hx : outcome x s = (.error e, (outcome x s).2) := by rw [← h]
  rw [outcome_bind_error hx]

theorem ok_of_outcome_bind {x : ExceptT ε (StateM σ) α} {f : α → ExceptT ε (StateM σ) β} {s u : σ}
    {b : β} (h : outcome (x >>= f) s = (.ok b, u)) :
    ∃ a t, outcome x s = (.ok a, t) ∧ outcome (f a) t = (.ok b, u) := by
  rw [outcome_bind] at h
  rcases hx : outcome x s with ⟨e | a, t⟩
  · rw [hx] at h
    cases h
  · rw [hx] at h
    exact ⟨a, t, rfl, h⟩

theorem outcome_map (f : α → β) (x : ExceptT ε (StateM σ) α) (s : σ) :
    outcome (f <$> x) s = ((outcome x s).1.map f, (outcome x s).2) := by
  rw [map_eq_pure_bind, outcome_bind]
  rcases outcome x s with ⟨r, t⟩
  cases r <;> rfl

@[simp] theorem outcome_attempt (x : ExceptT ε (StateM σ) α) (s : σ) :
    outcome (attempt x) s = (.ok (outcome x s).1, (outcome x s).2) := rfl

theorem outcome_adapt {ε' : Type} (f : ε → ε') (x : ExceptT ε (StateM σ) α) (s : σ) :
    outcome (ExceptT.adapt f x) s = ((outcome x s).1.mapError f, (outcome x s).2) := rfl

theorem ok_of_outcome_adapt {ε' : Type} {f : ε → ε'} {x : ExceptT ε (StateM σ) α} {s t : σ} {a : α}
    (h : outcome (ExceptT.adapt f x) s = (.ok a, t)) : outcome x s = (.ok a, t) := by
  rw [outcome_adapt] at h
  rcases hx : outcome x s with ⟨e | b, u⟩
  · rw [hx] at h
    cases h
  · rw [hx] at h
    obtain ⟨hresult, rfl⟩ := Prod.mk.inj h
    rw [Except.ok.inj hresult]

end MemoryShell
