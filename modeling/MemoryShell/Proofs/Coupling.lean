import MemoryShell.Proofs.Outcome

set_option autoImplicit false

namespace MemoryShell

variable {ε σ τ α β γ δ : Type}

def Agree (Q : α → β → Prop) : Except ε α → Except ε β → Prop
  | .ok a, .ok b => Q a b
  | .error e, .error f => e = f
  | _, _ => False

theorem Agree.cases {Q : α → β → Prop} {x : Except ε α} {y : Except ε β} (h : Agree Q x y) :
    (∃ a b, x = .ok a ∧ y = .ok b ∧ Q a b) ∨ ∃ e, x = .error e ∧ y = .error e := by
  rcases x with e | a <;> rcases y with f | b
  · exact .inr ⟨e, rfl, congrArg _ (Eq.symm h)⟩
  · exact absurd h id
  · exact absurd h id
  · exact .inl ⟨a, b, rfl, rfl, h⟩

theorem Agree.mono {P Q : α → β → Prop} (hPQ : ∀ a b, P a b → Q a b) {x : Except ε α}
    {y : Except ε β} (h : Agree P x y) : Agree Q x y := by
  rcases h.cases with ⟨a, b, rfl, rfl, hab⟩ | ⟨e, rfl, rfl⟩
  · exact hPQ a b hab
  · rfl

theorem Agree.of_eq {x y : Except ε α} (h : x = y) : Agree Eq x y := by
  rw [h]
  cases y <;> rfl

theorem Agree.eq {x y : Except ε α} (h : Agree Eq x y) : x = y := by
  rcases h.cases with ⟨a, b, rfl, rfl, rfl⟩ | ⟨e, rfl, rfl⟩ <;> rfl

theorem Agree.of_map_eq {f : α → γ} {x y : Except ε α} (h : x.map f = y.map f) :
    Agree (fun a b => f a = f b) x y := by
  cases x with
  | error e =>
    cases y with
    | error e' => exact Except.error.inj h
    | ok b => cases h
  | ok a =>
    cases y with
    | error e' => cases h
    | ok b => exact Except.ok.inj h

theorem Agree.mapError {ε' : Type} {Q : α → β → Prop} {x : Except ε α} {y : Except ε β}
    (h : Agree Q x y) (f : ε → ε') : Agree Q (x.mapError f) (y.mapError f) := by
  rcases h.cases with ⟨a, b, rfl, rfl, hab⟩ | ⟨e, rfl, rfl⟩
  · exact hab
  · rfl

/-- Related states lead to results that belong together and to related states. -/
def Coupled (R : σ → τ → Prop) (Q : α → β → Prop) (x : ExceptT ε (StateM σ) α)
    (y : ExceptT ε (StateM τ) β) : Prop :=
  ∀ s t, R s t → Agree Q (outcome x s).1 (outcome y t).1 ∧ R (outcome x s).2 (outcome y t).2

namespace Coupled

variable {R : σ → τ → Prop} {P Q : α → β → Prop} {S : γ → δ → Prop}

theorem pure {a : α} {b : β} (h : Q a b) :
    Coupled R Q (Pure.pure a : ExceptT ε (StateM σ) α) (Pure.pure b) :=
  fun _ _ hst => ⟨h, hst⟩

theorem throw (e : ε) :
    Coupled R Q (MonadExcept.throw e : ExceptT ε (StateM σ) α) (MonadExcept.throw e) :=
  fun _ _ hst => ⟨rfl, hst⟩

theorem bind {x : ExceptT ε (StateM σ) α} {y : ExceptT ε (StateM τ) β}
    {f : α → ExceptT ε (StateM σ) γ} {g : β → ExceptT ε (StateM τ) δ} (hxy : Coupled R P x y)
    (hfg : ∀ a b, P a b → Coupled R S (f a) (g b)) : Coupled R S (x >>= f) (y >>= g) := by
  intro s t hst
  obtain ⟨hagree, hafter⟩ := hxy s t hst
  rw [outcome_bind, outcome_bind]
  rcases hx : outcome x s with ⟨r, s'⟩
  rcases hy : outcome y t with ⟨r', t'⟩
  rw [hx, hy] at hagree hafter
  rcases hagree.cases with ⟨a, b, rfl, rfl, hab⟩ | ⟨e, rfl, rfl⟩
  · exact hfg a b hab s' t' hafter
  · exact ⟨rfl, hafter⟩

theorem map {x : ExceptT ε (StateM σ) α} {y : ExceptT ε (StateM τ) β} {f : α → γ} {g : β → δ}
    (h : Coupled R P x y) (hS : ∀ a b, P a b → S (f a) (g b)) :
    Coupled R S (f <$> x) (g <$> y) := by
  rw [map_eq_pure_bind, map_eq_pure_bind]
  exact h.bind fun a b hab => pure (hS a b hab)

theorem mono {x : ExceptT ε (StateM σ) α} {y : ExceptT ε (StateM τ) β} (h : Coupled R P x y)
    (hPQ : ∀ a b, P a b → Q a b) : Coupled R Q x y :=
  fun s t hst => ⟨(h s t hst).1.mono hPQ, (h s t hst).2⟩

theorem attempt {x : ExceptT ε (StateM σ) α} {y : ExceptT ε (StateM τ) β} (h : Coupled R P x y) :
    Coupled R (Agree P) (MemoryShell.attempt x) (MemoryShell.attempt y) :=
  fun s t hst => h s t hst

theorem adapt {ε' : Type} {x : ExceptT ε (StateM σ) α} {y : ExceptT ε (StateM τ) β}
    (h : Coupled R P x y) (f : ε → ε') :
    Coupled R P (ExceptT.adapt f x) (ExceptT.adapt f y) := by
  intro s t hst
  obtain ⟨hagree, hafter⟩ := h s t hst
  rw [outcome_adapt, outcome_adapt]
  exact ⟨hagree.mapError f, hafter⟩

theorem get : Coupled R R (MonadState.get : ExceptT ε (StateM σ) σ) MonadState.get :=
  fun _ _ hst => ⟨hst, hst⟩

theorem modify {f : σ → σ} {g : τ → τ} (h : ∀ s t, R s t → R (f s) (g t)) :
    Coupled R Eq (modify f : ExceptT ε (StateM σ) PUnit) (modify g) :=
  fun s t hst => ⟨rfl, h s t hst⟩

end Coupled

/-- A program keeps an invariant, and its results have a property. -/
def Keeps (I : σ → Prop) (Q : α → Prop) (x : ExceptT ε (StateM σ) α) : Prop :=
  ∀ s, I s → (∀ a, (outcome x s).1 = .ok a → Q a) ∧ I (outcome x s).2

namespace Keeps

variable {I : σ → Prop} {P Q : α → Prop} {S : γ → Prop}

theorem pure {a : α} (h : Q a) : Keeps I Q (Pure.pure a : ExceptT ε (StateM σ) α) := by
  intro s hs
  refine ⟨fun b hb => ?_, hs⟩
  rw [outcome_pure] at hb
  exact Except.ok.inj hb ▸ h

theorem throw (e : ε) : Keeps I Q (MonadExcept.throw e : ExceptT ε (StateM σ) α) := by
  intro s hs
  refine ⟨fun b hb => ?_, hs⟩
  rw [outcome_throw] at hb
  cases hb

theorem bind {x : ExceptT ε (StateM σ) α} {f : α → ExceptT ε (StateM σ) γ} (hx : Keeps I P x)
    (hf : ∀ a, P a → Keeps I S (f a)) : Keeps I S (x >>= f) := by
  intro s hs
  obtain ⟨hresult, hafter⟩ := hx s hs
  rw [outcome_bind]
  rcases hrun : outcome x s with ⟨e | a, t⟩
  · rw [hrun] at hafter
    exact ⟨fun c hc => (by cases hc), hafter⟩
  · rw [hrun] at hresult hafter
    exact hf a (hresult a rfl) t hafter

theorem mono {x : ExceptT ε (StateM σ) α} (h : Keeps I P x) (hPQ : ∀ a, P a → Q a) :
    Keeps I Q x :=
  fun s hs => ⟨fun a ha => hPQ a ((h s hs).1 a ha), (h s hs).2⟩

theorem attempt {x : ExceptT ε (StateM σ) α} (h : Keeps I P x) :
    Keeps I (fun r => ∀ a, r = .ok a → P a) (MemoryShell.attempt x) := by
  intro s hs
  refine ⟨fun r hr => ?_, (h s hs).2⟩
  rw [outcome_attempt] at hr
  exact Except.ok.inj hr ▸ (h s hs).1

theorem get : Keeps I I (MonadState.get : ExceptT ε (StateM σ) σ) := by
  intro s hs
  refine ⟨fun t ht => ?_, hs⟩
  exact Except.ok.inj ht ▸ hs

theorem modify {f : σ → σ} (h : ∀ s, I s → I (f s)) :
    Keeps I (fun _ => True) (modify f : ExceptT ε (StateM σ) PUnit) :=
  fun s hs => ⟨fun _ _ => trivial, h s hs⟩

theorem adapt {ε' : Type} {x : ExceptT ε (StateM σ) α} (h : Keeps I P x) (f : ε → ε') :
    Keeps I P (ExceptT.adapt f x) := by
  intro s hs
  obtain ⟨hresult, hafter⟩ := h s hs
  rw [outcome_adapt]
  refine ⟨fun a ha => ?_, hafter⟩
  cases hr : (outcome x s).1 with
  | error e => simp [hr] at ha
  | ok b =>
    rw [hr] at ha
    exact hresult a (hr.trans (congrArg _ (Except.ok.inj ha)))

theorem mapM {ι : Type} {f : ι → ExceptT ε (StateM σ) α} (h : ∀ i, Keeps I (fun _ => True) (f i))
    (is : List ι) : Keeps I (fun _ => True) (is.mapM f) := by
  induction is with
  | nil => exact pure trivial
  | cons i is ih =>
    rw [List.mapM_cons]
    exact (h i).bind fun _ _ => ih.bind fun _ _ => pure trivial

theorem of_coupled {x : ExceptT ε (StateM σ) α}
    (h : Coupled (fun s t => s = t ∧ I s) (fun a b => a = b ∧ Q a) x x) : Keeps I Q x := by
  intro s hs
  obtain ⟨hagree, -, hafter⟩ := h s s ⟨rfl, hs⟩
  refine ⟨fun a ha => ?_, hafter⟩
  rw [ha] at hagree
  exact hagree.2

theorem of_coupled_eq {x : ExceptT ε (StateM σ) α}
    (h : Coupled (fun s t => s = t ∧ I s) Eq x x) : Keeps I (fun _ => True) x :=
  of_coupled (h.mono fun _ _ hab => ⟨hab, trivial⟩)

theorem coupled {x : ExceptT ε (StateM σ) α} (h : Keeps I P x) {Q : α → α → Prop}
    (hQ : ∀ a, P a → Q a a) : Coupled (fun s t => s = t ∧ I s) Q x x := by
  rintro s t ⟨rfl, hs⟩
  obtain ⟨hresult, hafter⟩ := h s hs
  refine ⟨?_, rfl, hafter⟩
  cases hr : (outcome x s).1 with
  | error e => rfl
  | ok a => exact hQ a (hresult a hr)

end Keeps

end MemoryShell
