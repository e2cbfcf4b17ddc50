import MemoryShell.Proofs.Volume.Approach
import MemoryShell.Proofs.Volume.Atomic
import MemoryShell.Proofs.Volume.Invocation
import MemoryShell.Proofs.Volume.Overlay
import MemoryShell.Proofs.Volume.Success

/-!
Operations that do not meet. Writing a file, making a directory, removing and setting a mode look at
the path that they are given and at what is above it, and they change what is there and below it. So
where neither of two paths lies at or below the other, two of them come to the same in either order:
each of them succeeds or fails as it does without the other one, and the tree shows the same in the end.
-/

set_option autoImplicit false

namespace MemoryShell

namespace Volume

variable {ε α β : Type} {p q : Path} {v w : Volume}

/-- Two volumes show the same at a path, above it and below it. -/
structure SameAround (p : Path) (v w : Volume) : Prop extends SameApproach p v w where
  below : ∀ q, p <+: q → v.root.entry q = w.root.entry q

theorem SameAround.symm (h : SameAround p v w) : SameAround p w v :=
  ⟨⟨h.released.symm, fun q hq => (h.entry q hq).symm⟩, fun q hq => (h.below q hq).symm⟩

/-- Wherever it is run, a program changes nothing that shows beside a path or above it. -/
def Spares (p : Path) (x : ExceptT ε (StateM Volume) α) : Prop :=
  ∀ v, (outcome x v).2.released = v.released ∧
    ∀ q, ¬ p <+: q → (outcome x v).2.root.entry q = v.root.entry q

/-- A program that succeeds makes of every entry what an edit says, and one that fails changes
nothing. -/
structure Edits (edit : Path → Option FlatEntry → Option FlatEntry) (x : VolumeM Unit) : Prop where
  failure : ∀ v e, (outcome x v).1 = .error e → (outcome x v).2 = v
  success : ∀ v w, outcome x v = (.ok (), w) →
    w.released = v.released ∧ ∀ q, w.root.entry q = edit q (v.root.entry q)

/-- Two programs do the same at a path, whatever shows elsewhere. -/
structure DoneAt (p : Path) (x y : ExceptT ε (StateM Volume) α) : Prop where
  left : Spares p x
  right : Spares p y
  coupled : Coupled (SameAround p) Eq x y

namespace Spares

theorem of_looks {x : ExceptT ε (StateM Volume) α} (h : Looks x) : Spares p x := by
  intro v
  rw [h v]
  exact ⟨rfl, fun _ _ => rfl⟩

theorem bind {x : ExceptT ε (StateM Volume) α} {f : α → ExceptT ε (StateM Volume) β}
    (hx : Spares p x) (hf : ∀ a, Spares p (f a)) : Spares p (x >>= f) := by
  intro v
  obtain ⟨hreleased, hentry⟩ := hx v
  rw [outcome_bind]
  rcases hrun : outcome x v with ⟨e | a, u⟩
  · rw [hrun] at hreleased hentry
    exact ⟨hreleased, hentry⟩
  · rw [hrun] at hreleased hentry
    obtain ⟨hreleased', hentry'⟩ := hf a u
    exact ⟨hreleased'.trans hreleased, fun q hq => (hentry' q hq).trans (hentry q hq)⟩

theorem adapt {ε' : Type} {x : ExceptT ε (StateM Volume) α} (h : Spares p x) (f : ε → ε') :
    Spares p (ExceptT.adapt f x) :=
  h

end Spares

namespace DoneAt

theorem of_edits {x y : VolumeM Unit} {edit : Path → Option FlatEntry → Option FlatEntry}
    (hx : Edits edit x) (hy : Edits edit y) (hedit : ∀ q old, ¬ p <+: q → edit q old = old)
    (hfst : ∀ v w, SameApproach p v w → (outcome x v).1 = (outcome y w).1) : DoneAt p x y := by
  have hspares : ∀ {z : VolumeM Unit}, Edits edit z → Spares p z := by
    intro z hz v
    cases hresult : (outcome z v).1 with
    | error e =>
      rw [hz.failure v e hresult]
      exact ⟨rfl, fun _ _ => rfl⟩
    | ok _ =>
      obtain ⟨hreleased, hentry⟩ := hz.success v _ (Prod.ext hresult rfl)
      exact ⟨hreleased, fun q hq => (hentry q).trans (hedit q _ hq)⟩
  refine ⟨hspares hx, hspares hy, fun v w h => ?_⟩
  have heq := hfst v w h.toSameApproach
  refine ⟨.of_eq heq, ?_⟩
  cases hresult : (outcome x v).1 with
  | error e =>
    rw [hx.failure v e hresult, hy.failure w e (heq.symm.trans hresult)]
    exact h
  | ok _ =>
    obtain ⟨hreleased, hentry⟩ := hx.success v _ (Prod.ext hresult rfl)
    obtain ⟨hreleased', hentry'⟩ := hy.success w _ (Prod.ext (heq.symm.trans hresult) rfl)
    refine ⟨⟨hreleased.trans (h.released.trans hreleased'.symm), fun q hq => ?_⟩, fun q hq => ?_⟩
    · rw [hentry, hentry', h.entry q hq]
    · rw [hentry, hentry', h.below q hq]

theorem throw (e : ε) :
    DoneAt p (MonadExcept.throw e : ExceptT ε (StateM Volume) α) (MonadExcept.throw e) :=
  ⟨.of_looks (.throw e), .of_looks (.throw e), .throw e⟩

theorem adapt {ε' : Type} {x y : ExceptT ε (StateM Volume) α} (h : DoneAt p x y) (f : ε → ε') :
    DoneAt p (ExceptT.adapt f x) (ExceptT.adapt f y) :=
  ⟨h.left.adapt f, h.right.adapt f, h.coupled.adapt f⟩

theorem silent {x y : VolumeM Unit} (h : DoneAt p x y) :
    DoneAt p (Volume.silent x) (Volume.silent y) :=
  ⟨h.left.bind fun _ => .of_looks (.pure _), h.right.bind fun _ => .of_looks (.pure _),
    h.coupled.bind fun _ _ _ => .pure rfl⟩

theorem bind_looks {l l' : ExceptT ε (StateM Volume) β} {P : β → β → Prop}
    {f g : β → ExceptT ε (StateM Volume) α} (hl : Looks l) (hl' : Looks l')
    (hfst : ∀ v w, SameApproach p v w → Agree P (outcome l v).1 (outcome l' w).1)
    (hf : ∀ b, Spares p (f b)) (hg : ∀ b, Spares p (g b))
    (hfg : ∀ a b, P a b → Coupled (SameAround p) Eq (f a) (g b)) :
    DoneAt p (l >>= f) (l' >>= g) := by
  have hfound : Coupled (SameAround p) P l l' := fun v w h => by
    refine ⟨hfst v w h.toSameApproach, ?_⟩
    rwa [hl v, hl' w]
  exact ⟨(Spares.of_looks hl).bind hf, (Spares.of_looks hl').bind hg, hfound.bind hfg⟩

end DoneAt

theorem Spares.sameAround {x : ExceptT ε (StateM Volume) α} (h : Spares q x)
    (hpq : Node.Apart p q) (v : Volume) : SameAround p v (outcome x v).2 := by
  obtain ⟨hreleased, hentry⟩ := h v
  refine ⟨⟨hreleased.symm, fun r hr => ?_⟩, fun r hr => ?_⟩
  · exact (hentry r fun hqr => hpq.right (hqr.trans hr)).symm
  · refine (hentry r fun hqr => ?_).symm
    exact (List.prefix_or_prefix_of_prefix hr hqr).elim hpq.left hpq.right

/-- One thing done first and another one after it come to the same as the other one done first. -/
structure SameEitherWay (v : Volume) (x x' : ExceptT ε (StateM Volume) α)
    (y y' : ExceptT ε (StateM Volume) β) : Prop where
  one : (outcome x v).1 = (outcome x' (outcome y' v).2).1
  other : (outcome y (outcome x v).2).1 = (outcome y' v).1
  released : (outcome y (outcome x v).2).2.released = (outcome x' (outcome y' v).2).2.released
  entry : ∀ r, (outcome y (outcome x v).2).2.root.entry r =
    (outcome x' (outcome y' v).2).2.root.entry r

theorem sameEitherWay_of_doneAt (hpq : Node.Apart p q) {x x' : ExceptT ε (StateM Volume) α}
    {y y' : ExceptT ε (StateM Volume) β} (hx : DoneAt p x x') (hy : DoneAt q y y') (v : Volume) :
    SameEitherWay v x x' y y' := by
  have hqp : Node.Apart q p := ⟨hpq.right, hpq.left⟩
  obtain ⟨hresult, hafter⟩ := hx.coupled v _ (hy.right.sameAround hpq v)
  obtain ⟨hresult', hafter'⟩ := hy.coupled _ v (hx.left.sameAround hqp v).symm
  obtain ⟨hxr, hxe⟩ := hx.left v
  obtain ⟨hxr', hxe'⟩ := hx.right (outcome y' v).2
  obtain ⟨hyr, hye⟩ := hy.left (outcome x v).2
  obtain ⟨hyr', hye'⟩ := hy.right v
  refine ⟨hresult.eq, hresult'.eq, by rw [hyr, hxr, hxr', hyr'], fun r => ?_⟩
  by_cases hp : p <+: r
  · -- the first program decides, and the second one spares it
    have hq : ¬ q <+: r := fun hq => (List.prefix_or_prefix_of_prefix hp hq).elim hpq.left hpq.right
    rw [hye r hq, hafter.below r hp]
  · by_cases hq : q <+: r
    · rw [hafter'.below r hq, hxe' r hp]
    · rw [hye r hq, hxe r hp, hxe' r hp, hye' r hq]

theorem ite_beside {x y : Option FlatEntry} (hq : ¬ p <+: q) : (if q = p then x else y) = y := by
  rw [if_neg]
  rintro rfl
  exact hq (List.prefix_refl q)

section

variable {spelling : Text} (hp : Path.parse? spelling = some p) (now now' : Int)

include hp

theorem path_of_slot {slot : Slot} (h : v.slot spelling = .ok slot) : slot.path = p :=
  Option.some.inj ((found_of_slot h).2.1.symm.trans hp)

theorem edits_writeFile (mode : WriteMode) (data : Bytes) :
    Edits (fun q old =>
      if q = p then
        some ((old.map (.mapData (mode.combine data))).getD (.file Stamp.fileMode data))
      else old) (writeFile now mode spelling data) where
  failure := allOrNothing_writeFile now mode spelling data
  success v w h := by
    obtain ⟨slot, hslot, hcases⟩ := writeFile_ok h
    have hpath : slot.directory ++ [slot.name] = p := path_of_slot hp hslot
    have hentry : v.root.entry p = slot.node?.map Node.toEntry := by
      rw [Node.entry, ← at?_of_slot hslot, Slot.path, hpath]
    rcases hcases with ⟨hfree, -, rfl⟩ | ⟨s, old, hfile, -, rfl⟩
    · refine ⟨rfl, fun q => ?_⟩
      refine (Node.entry_insert (walk_of_slot hslot) hfree (fun _ _ => rfl) now q).trans ?_
      rw [hpath]
      split
      · rename_i hq
        rw [hq, hentry, hfree]
        rfl
      · rfl
    · refine ⟨rfl, fun q => ?_⟩
      refine (Node.entry_setData (mode.combine data) now slot.path q v.root).trans ?_
      rw [Slot.path, hpath]
      split
      · rename_i hq
        rw [hq, hentry, hfile]
        rfl
      · rfl

theorem edits_makeDirectory :
    Edits (fun q old => if q = p then some (.directory Stamp.directoryMode) else old)
      (makeDirectory now spelling) where
  failure := allOrNothing_makeDirectory now spelling
  success v w h := by
    obtain ⟨slot, hslot, hfree, -, rfl⟩ := makeDirectory_ok h
    refine ⟨rfl, fun q => ?_⟩
    refine (Node.entry_insert (walk_of_slot hslot) hfree (fun _ _ => rfl) now q).trans ?_
    rw [← path_of_slot hp hslot]
    rfl

theorem edits_remove (recursive force : Bool) :
    Edits (fun q old => if p <+: q then none else old)
      (remove now spelling recursive force) where
  failure := allOrNothing_remove now spelling recursive force
  success v w h := by
    rcases remove_ok h with ⟨⟨t, hmissing⟩, rfl⟩ | ⟨slot, node, hslot, -, rfl⟩
    · refine ⟨rfl, fun q => ?_⟩
      have hnone := entry_eq_none_of_missing hp hmissing
      split
      · rename_i hq
        by_contra hsome
        exact Node.entry_ne_none_of_isPrefix hq hsome hnone
      · rfl
    · refine ⟨rfl, fun q => ?_⟩
      refine (Node.entry_erase (walk_of_slot hslot) slot.name now q).trans ?_
      rw [← path_of_slot hp hslot]
      rfl

theorem edits_setMode (mode : Int) :
    Edits (fun q old => if q = p then old.map (.withMode (mode % 0o1000).toNat) else old)
      (setMode spelling mode) where
  failure := allOrNothing_setMode spelling mode
  success v w h := by
    obtain ⟨r, hr, rfl⟩ := setMode_ok h
    obtain rfl := Option.some.inj (hr.symm.trans hp)
    exact ⟨rfl, fun q => Node.entry_setMode _ r q v.root⟩

theorem doneAt_writeFile (mode : WriteMode) (data : Bytes) :
    DoneAt p (writeFile now mode spelling data) (writeFile now' mode spelling data) :=
  .of_edits (edits_writeFile hp now mode data) (edits_writeFile hp now' mode data)
    (fun _ _ hq => ite_beside hq) fun _ _ h => h.fst_writeFile hp now now' mode data

theorem doneAt_writeContent (mode : WriteMode) (content : Content) :
    DoneAt p (writeContent now mode spelling content) (writeContent now' mode spelling content) := by
  cases content with
  | octets data => exact doneAt_writeFile hp now now' mode data
  | text t =>
    show DoneAt p (writeText now mode spelling t) (writeText now' mode spelling t)
    unfold writeText
    cases Utf8.encodeText? t with
    | none => exact .throw _
    | some data => exact doneAt_writeFile hp now now' mode data

theorem doneAt_makeDirectory :
    DoneAt p (makeDirectory now spelling) (makeDirectory now' spelling) :=
  .of_edits (edits_makeDirectory hp now) (edits_makeDirectory hp now')
    (fun _ _ hq => ite_beside hq) fun _ _ h => h.fst_makeDirectory hp now now'

theorem doneAt_remove (recursive force : Bool) :
    DoneAt p (remove now spelling recursive force) (remove now' spelling recursive force) :=
  .of_edits (edits_remove hp now recursive force) (edits_remove hp now' recursive force)
    (fun _ _ hq => if_neg hq) fun _ _ h => h.fst_remove hp now now' recursive force

theorem doneAt_setMode (mode : Int) : DoneAt p (setMode spelling mode) (setMode spelling mode) :=
  .of_edits (edits_setMode hp mode) (edits_setMode hp mode)
    (fun _ _ hq => ite_beside hq) fun _ _ h => h.fst_setMode hp mode

end

/-- An operation that is done at a path: a write, making a directory but none above it, a removal or
setting a mode. -/
def Operation.ActsAt (p : Path) : Operation → Prop
  | .write _ s _ | .makeDirectory s false | .remove s _ _ | .setMode s _ => Path.parse? s = some p
  | _ => False

theorem doneAt_perform {op : Operation} (h : op.ActsAt p) (now now' : Int) :
    DoneAt p (op.perform now) (op.perform now') := by
  cases op with
  | write mode s content => exact (doneAt_writeContent h now now' mode content).silent
  | makeDirectory s recursive =>
    cases recursive with
    | false => exact (doneAt_makeDirectory h now now').silent
    | true => exact h.elim
  | remove s recursive force => exact (doneAt_remove h now now' recursive force).silent
  | setMode s mode => exact (doneAt_setMode h mode).silent
  | _ => exact h.elim

end Volume

open Volume

/-- An argument is a spelling of a path. -/
def Argument.Spells (p : Path) (a : Argument) : Prop :=
  ∃ s, a = .value (.string s) ∧ Path.parse? s = some p

namespace Invocation

def ActsAt (p : Path) : Invocation → Prop
  | .write _ path _ | .remove path _ _ | .setMode path _ => path.Spells p
  | .makeDirectory path recursive => path.Spells p ∧ recursive.isTruthy = false
  | _ => False

variable {p q : Path} {s : Text}

theorem doneAt_run {op : Operation} (h : op.ActsAt p) (now now' : Int) :
    DoneAt p (run now op) (run now' op) :=
  (doneAt_perform h now now').adapt _

theorem spelling_string_bind {α : Type} (f : Text → InvocationM α) :
    spelling (.value (.string s)) >>= f = f s :=
  pure_bind s f

theorem doneAt_writeOther (hp : Path.parse? s = some p) (now now' : Int) (mode : WriteMode)
    (kind : String) (octets : Except Fault Bytes) :
    DoneAt p (writeOther now mode (.value (.string s)) kind octets)
      (writeOther now' mode (.value (.string s)) kind octets) := by
  have hwrite : ∀ c, (Operation.write mode s c).ActsAt p := fun _ => hp
  have hlooks : Looks (onVolume (writableSlot s)) := (looks_writableSlot s).adapt _
  unfold writeOther
  rw [spelling_string_bind, spelling_string_bind]
  refine .bind_looks (P := SameSlot) hlooks hlooks (fun v w h => ?_) (fun slot => ?_)
    (fun slot => ?_) fun a b hab => ?_
  · unfold onVolume
    rw [outcome_adapt, outcome_adapt, outcome_writableSlot, outcome_writableSlot]
    exact (h.writable hp).mapError _
  · cases dataFor mode slot kind octets with
    | ok bs => exact (doneAt_run (hwrite _) now now').left
    | error f => exact (DoneAt.throw _).left
  · cases dataFor mode slot kind octets with
    | ok bs => exact (doneAt_run (hwrite _) now now').right
    | error f => exact (DoneAt.throw _).right
  · have hsome : a.node?.isSome = b.node?.isSome := by
      rw [← Option.isSome_map, hab.node, Option.isSome_map]
    rw [dataFor_congr hsome]
    cases dataFor mode b kind octets with
    | ok bs => exact (doneAt_run (hwrite _) now now').coupled
    | error f => exact .throw _

theorem doneAt_writeAny (hp : Path.parse? s = some p) (now now' : Int) (mode : WriteMode)
    (content : Argument) :
    DoneAt p (writeAny now mode (.value (.string s)) content)
      (writeAny now' mode (.value (.string s)) content) := by
  have hwrite : ∀ c, (Operation.write mode s c).ActsAt p := fun _ => hp
  unfold writeAny
  split
  · split
    · exact .throw _
    · rw [spelling_string_bind, spelling_string_bind]
      exact doneAt_run (hwrite _) now now'
  · rw [spelling_string_bind, spelling_string_bind]
    exact doneAt_run (hwrite _) now now'
  · exact doneAt_writeOther hp now now' mode _ _
  · exact doneAt_writeOther hp now now' mode _ _

theorem doneAt_lookupSpelling_bind {f g : Text → InvocationM Value} (h : DoneAt p (f s) (g s)) :
    DoneAt p (lookupSpelling (.value (.string s)) >>= f)
      (lookupSpelling (.value (.string s)) >>= g) := by
  have hlooks : Looks (onVolume ensureOpen) := looks_ensureOpen.adapt _
  unfold lookupSpelling
  rw [bind_assoc, bind_assoc]
  simp only [spelling_string_bind]
  refine .bind_looks (P := fun _ _ => True) hlooks hlooks (fun v w hvw => ?_) (fun _ => h.left)
    (fun _ => h.right) fun _ _ _ => h.coupled
  unfold onVolume
  rw [outcome_adapt, outcome_adapt, outcome_ensureOpen, outcome_ensureOpen, hvw.released]
  cases w.released <;> trivial

theorem doneAt_bits_bind (hp : Path.parse? s = some p) (mode : Argument)
    {f g : Int → InvocationM Value} (h : ∀ n, DoneAt p (f n) (g n)) :
    DoneAt p (bits s mode >>= f) (bits s mode >>= g) := by
  unfold bits
  cases mode.integer? with
  | some n =>
    simp only [pure_bind]
    exact h n
  | none =>
    have hlooks : Looks (onVolume (lookup s)) := (looks_lookup s).adapt _
    simp only [bind_assoc]
    refine .bind_looks (P := fun _ _ => True) hlooks hlooks (fun v w hvw => ?_)
      (fun _ => (DoneAt.throw _).left) (fun _ => (DoneAt.throw _).right)
      fun _ _ _ => (DoneAt.throw _).coupled
    unfold onVolume
    rw [outcome_adapt, outcome_adapt, outcome_lookup, outcome_lookup]
    exact ((hvw.find hp).mapError _).mono fun _ _ _ => trivial

theorem doneAt_invocation {i : Invocation} (h : i.ActsAt p) (now now' : Int) :
    DoneAt p (i.perform now) (i.perform now') := by
  cases i with
  | write mode path content =>
    obtain ⟨s, rfl, hp⟩ := h
    exact doneAt_writeAny hp now now' mode content
  | makeDirectory path recursive =>
    obtain ⟨⟨s, rfl, hp⟩, hplain⟩ := h
    rw [perform, perform, hplain]
    rw [spelling_string_bind, spelling_string_bind]
    exact doneAt_run (show (Operation.makeDirectory s false).ActsAt p from hp) now now'
  | remove path recursive force =>
    obtain ⟨s, rfl, hp⟩ := h
    rw [perform, perform, spelling_string_bind, spelling_string_bind]
    exact doneAt_run (show (Operation.remove s _ _).ActsAt p from hp) now now'
  | setMode path mode =>
    obtain ⟨s, rfl, hp⟩ := h
    have hbits : ∀ n, (Operation.setMode s n).ActsAt p := fun _ => hp
    exact doneAt_lookupSpelling_bind
      (doneAt_bits_bind hp mode fun n => doneAt_run (hbits n) now now')
  | _ => exact h.elim

/-- Two invocations at paths of which neither leads to the other come to the same in either order, at
whatever times they are performed. -/
theorem same_in_either_order {p q : Path} (hpq : Node.Apart p q) {i j : Invocation}
    (hi : i.ActsAt p) (hj : j.ActsAt q) (now now' later later' : Int) (v : Volume) :
    SameEitherWay v (i.perform now) (i.perform later') (j.perform later) (j.perform now') :=
  sameEitherWay_of_doneAt hpq (doneAt_invocation hi now later') (doneAt_invocation hj later now') v

/-- A file is written beside another one, which is removed from the same directory. -/
theorem same_in_either_order_in_one_directory :
    let d : Name := ⟨.ofString "d", by decide⟩
    let a : Name := ⟨.ofString "a", by decide⟩
    let b : Name := ⟨.ofString "b", by decide⟩
    let v : Volume := ⟨.directory ⟨0o777, .integer 0, 0⟩
      [(d, .directory ⟨0o777, .integer 0, 0⟩ [(b, .newFile 0 [98])])], false⟩
    let i := Invocation.write .replace (.value (.string (.ofString "/d/a"))) (.octets [97])
    let j := Invocation.remove (.value (.string (.ofString "/d//b"))) (.value (.bool false))
      (.value (.integer 1))
    Node.Apart [d, a] [d, b] ∧ i.ActsAt [d, a] ∧ j.ActsAt [d, b] ∧
      SameEitherWay v (i.perform 1) (i.perform 4) (j.perform 2) (j.perform 3) := by
  intro d a b v i j
  have hapart : Node.Apart [d, a] [d, b] := ⟨by decide, by decide⟩
  have hi : i.ActsAt [d, a] := ⟨_, rfl, rfl⟩
  have hj : j.ActsAt [d, b] := ⟨_, rfl, rfl⟩
  exact ⟨hapart, hi, hj, same_in_either_order hapart hi hj 1 3 2 4 v⟩

end Invocation

end MemoryShell
