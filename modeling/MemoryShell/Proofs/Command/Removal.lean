import MemoryShell.Proofs.Command.Footprint
import MemoryShell.Proofs.Shell.Diversion
import MemoryShell.Proofs.Tree.Pruning

/-!
What removing takes away. Operand after operand, the tree loses what stands at the operand and below it,
and nothing else; the root is refused. With force, a missing operand counts as removed already, so that the
operands may overlap and may be given in any order.
-/

set_option autoImplicit false

namespace MemoryShell

namespace Shell

def pruned (s : Shell) (p : Path) : Shell :=
  { s with volume := { s.volume with root := s.volume.root.prune s.clock p } }

def prunedAll (s : Shell) (ps : List Path) : Shell :=
  { s with volume := { s.volume with root := s.volume.root.pruneAll s.clock ps } }

@[simp] theorem prunedAll_nil (s : Shell) : s.prunedAll [] = s := rfl

theorem prunedAll_cons (s : Shell) (p : Path) (ps : List Path) :
    s.prunedAll (p :: ps) = (s.pruned p).prunedAll ps := rfl

theorem pruned_of_missing {s : Shell} {p : Path} (h : s.volume.root.entry p = none) :
    s.pruned p = s := by
  rw [pruned, Node.prune_of_missing h]

theorem prunedAll_of_missing {s : Shell} {ps : List Path}
    (h : ∀ p ∈ ps, s.volume.root.entry p = none) : s.prunedAll ps = s := by
  rw [prunedAll, Node.pruneAll_of_missing h]

theorem prunedAll_perm (s : Shell) {ps qs : List Path} (h : ps.Perm qs) :
    s.prunedAll ps = s.prunedAll qs := by
  rw [prunedAll, prunedAll, Node.pruneAll_perm s.clock h]

theorem entry_prunedAll (s : Shell) (ps : List Path) (q : Path) :
    (s.prunedAll ps).volume.root.entry q =
      if ∃ p ∈ ps, p ≠ [] ∧ p <+: q then none else s.volume.root.entry q :=
  Node.entry_pruneAll s.clock ps q s.volume.root

end Shell

theorem Node.isMissing_of_walk {node : Node} {p : Path} {e : Errno} (h : node.walk p = .error e) :
    e.isMissing = true := by
  obtain ⟨-, -, -, above, -, -, -, rfl⟩ := exists_failure_of_walk_eq_error h
  cases above.isDirectory <;> rfl

theorem Volume.outcome_remove_there {v : Volume} {p : Path} {node : Node}
    (hopen : v.released = false) (hp : p ≠ []) (hw : v.root.walk p = .ok node) (now : Int)
    {recursive : Bool} (hkind : (node.isDirectory && !recursive) = false) (force : Bool) :
    outcome (remove now p.text recursive force) v =
      (.ok (), { v with root := v.root.prune now p }) := by
  obtain ⟨above, name, rfl⟩ : ∃ above name, p = above ++ [name] :=
    ⟨p.dropLast, p.getLast hp, (List.dropLast_append_getLast hp).symm⟩
  obtain ⟨s, es, hd⟩ := Node.exists_directory_of_walk_append hw
  have hfound : Entries.find? es name = some node :=
    (Node.at?_name hd name).symm.trans (Node.at?_eq_some.mpr hw)
  have hslot : v.occupied (Path.text (above ++ [name])) = .ok (⟨above, s, es, name⟩, node) := by
    unfold occupied slot
    simp only [Path.parse?_text, List.getLast?_concat, List.dropLast_concat,
      find_of_parse? hopen (Path.parse?_text above), hd, mapError_ok, Slot.node?, hfound]
  have hthere : v.root.entry (above ++ [name]) ≠ none := by
    rw [Node.entry_of_walk hw]
    exact Option.some_ne_none _
  rw [outcome_remove, hslot, Node.prune_of_there hthere]
  simp only [hkind, Bool.false_eq_true, if_false]
  rfl

namespace Commands

open Shell

def targets (directory : Text) (operands : List Text) : List Path :=
  operands.filterMap fun operand => Path.resolve? directory operand

/-- The arguments ask for the removal of operands, directories and missing ones included. -/
def AsksForAll (args operands : List Text) : Prop :=
  ∃ flags, Flags.parse ['r', 'R', 'f'] args = .ok flags ∧
    (flags.has 'r' || flags.has 'R') = true ∧ flags.has 'f' = true ∧ flags.operands = operands

variable {s : Shell} {p : Path}

theorem outcome_removeOne (hopen : s.volume.released = false) (hp : p ≠ []) (recursive : Bool) :
    outcome (removeOne recursive p) s =
      match s.volume.root.walk p with
      | .error e => (.error (.volume (.file e p.text)), s)
      | .ok node =>
        if node.isDirectory && !recursive then
          (.ok (some ("rm: cannot remove '" ++ p.text ++ "': Is a directory")), s)
        else (.ok none, s.pruned p) := by
  unfold removeOne
  rw [outcome_bind, outcome_stat_open hopen]
  cases hw : s.volume.root.walk p with
  | error e => rfl
  | ok node =>
    have hkind : ((Volume.Stat.ofNode p node).kind = .directory && !recursive) =
        (node.isDirectory && !recursive) := by
      cases node <;> rfl
    simp only [hkind]
    cases hrefused : node.isDirectory && !recursive with
    | true => rfl
    | false =>
      have hremoved := Volume.outcome_remove_there hopen hp hw s.clock hrefused false
      simp only [Bool.false_eq_true, if_false, outcome_bind, outcome_onVolume, hremoved]
      rfl

theorem outcome_removeOne_released (hreleased : s.volume.released = true) (recursive : Bool) :
    outcome (removeOne recursive p) s = (.error (.volume .released), s) := by
  unfold removeOne
  rw [outcome_bind_error (outcome_stat_released hreleased p)]

theorem outcome_resolve_of_eq_some {spelling : Text}
    (h : Path.resolve? s.directory spelling = some p) : outcome (resolve spelling) s = (.ok p, s) := by
  unfold resolve
  rw [outcome_bind, outcome_get]
  simp [h]

theorem exists_failure_of_resolve?_eq_none {spelling : Text}
    (h : Path.resolve? s.directory spelling = none) :
    ∃ f, outcome (resolve spelling) s = (.error f, s) := by
  unfold resolve
  rw [outcome_bind, outcome_get]
  exact ⟨.volume (.relative (Path.join s.directory spelling)), by simp [h]⟩

theorem outcome_removeAll_cons (hopen : s.volume.released = false) {operand : Text}
    (hp : Path.resolve? s.directory operand = some p) (hne : p ≠ [])
    (recursive force : Bool) (rest : List Text) :
    outcome (removeAll recursive force (operand :: rest)) s =
      match s.volume.root.walk p with
      | .error _ =>
        if force then outcome (removeAll recursive force rest) (s.pruned p)
        else (.ok (.refused .noSuchDirectory (Message.noSuchDirectory p.text "rm")), s)
      | .ok node =>
        if node.isDirectory && !recursive then
          (.ok (.refused .unknown ("rm: cannot remove '" ++ p.text ++ "': Is a directory")), s)
        else outcome (removeAll recursive force rest) (s.pruned p) := by
  rw [removeAll, outcome_bind_ok (outcome_resolve_of_eq_some hp), if_neg hne, outcome_bind,
    outcome_tryFiles, outcome_removeOne hopen hne]
  cases hw : s.volume.root.walk p with
  | error e =>
    simp only [Node.isMissing_of_walk hw, if_true, pruned_of_missing (Node.entry_eq_none.mpr ⟨e, hw⟩)]
    cases force <;> rfl
  | ok node =>
    simp only
    cases node.isDirectory && !recursive <;> rfl

theorem removeAll_cons_cases (recursive force : Bool) (operand : Text) (rest : List Text)
    (s : Shell) :
    (∃ r, outcome (removeAll recursive force (operand :: rest)) s = (r, s)) ∨
      ∃ p, p ≠ [] ∧ Path.resolve? s.directory operand = some p ∧
        outcome (removeAll recursive force (operand :: rest)) s =
          outcome (removeAll recursive force rest) (s.pruned p) := by
  cases hp : Path.resolve? s.directory operand with
  | none =>
    obtain ⟨f, hfails⟩ := exists_failure_of_resolve?_eq_none hp
    exact .inl ⟨.error f, by rw [removeAll, outcome_bind_error hfails]⟩
  | some p =>
    by_cases hne : p = []
    · exact .inl ⟨_, by rw [removeAll, outcome_bind_ok (outcome_resolve_of_eq_some hp), if_pos hne]; rfl⟩
    cases hreleased : s.volume.released with
    | true =>
      refine .inl ⟨.error (.volume .released), ?_⟩
      rw [removeAll, outcome_bind_ok (outcome_resolve_of_eq_some hp), if_neg hne, outcome_bind,
        outcome_tryFiles, outcome_removeOne_released hreleased]
    | false =>
      rw [outcome_removeAll_cons hreleased hp hne]
      split
      · cases force with
        | false => exact .inl ⟨_, rfl⟩
        | true => exact .inr ⟨p, hne, rfl, rfl⟩
      · split
        · exact .inl ⟨_, rfl⟩
        · exact .inr ⟨p, hne, rfl, rfl⟩

theorem removeAll_prunes (recursive force : Bool) (operands : List Text) (s : Shell) :
    ∃ ps, (∀ p ∈ ps, p ≠ [] ∧ p ∈ targets s.directory operands) ∧
      (outcome (removeAll recursive force operands) s).2 = s.prunedAll ps := by
  induction operands generalizing s with
  | nil => exact ⟨[], by simp, rfl⟩
  | cons operand rest ih =>
    rcases removeAll_cons_cases recursive force operand rest s with
      ⟨r, hends⟩ | ⟨p, hp, hresolved, hgoes⟩
    · exact ⟨[], by simp, by rw [hends, prunedAll_nil]⟩
    · obtain ⟨ps, hps, hrun⟩ := ih (s.pruned p)
      have htargets : targets s.directory (operand :: rest) = p :: targets s.directory rest :=
        List.filterMap_cons_some hresolved
      refine ⟨p :: ps, fun q hq => ?_, by rw [hgoes, hrun, prunedAll_cons]⟩
      rw [htargets]
      rcases List.mem_cons.mp hq with rfl | hq
      · exact ⟨hp, List.mem_cons_self⟩
      · exact ⟨(hps q hq).1, List.mem_cons_of_mem _ (hps q hq).2⟩

theorem outcome_removeAll_forced {operands : List Text} (hopen : s.volume.released = false)
    (habs : Path.isAbsolute s.directory = true) (hroot : [] ∉ targets s.directory operands) :
    outcome (removeAll true true operands) s =
      (.ok silence, s.prunedAll (targets s.directory operands)) := by
  induction operands generalizing s with
  | nil => rfl
  | cons operand rest ih =>
    obtain ⟨p, hp⟩ := Path.exists_resolve? habs operand
    have htargets : targets s.directory (operand :: rest) = p :: targets s.directory rest :=
      List.filterMap_cons_some hp
    rw [htargets, List.mem_cons, not_or] at hroot
    have hgoes : outcome (removeAll true true (operand :: rest)) s =
        outcome (removeAll true true rest) (s.pruned p) := by
      rw [outcome_removeAll_cons hopen hp (Ne.symm hroot.1)]
      cases s.volume.root.walk p <;> simp
    rw [hgoes, htargets, prunedAll_cons]
    exact ih (s := s.pruned p) hopen habs hroot.2

theorem rm_of_parse {args : List Text} {flags : Flags}
    (h : Flags.parse ['r', 'R', 'f'] args = .ok flags) (hne : flags.operands ≠ []) :
    rm args = removeAll (flags.has 'r' || flags.has 'R') (flags.has 'f') flags.operands := by
  have hargs : args.isEmpty = false := by
    cases args with
    | nil =>
      obtain rfl := Except.ok.inj h
      cases hne rfl
    | cons arg args => rfl
  have hoperands : flags.operands.isEmpty = false :=
    Bool.eq_false_iff.mpr fun hnil => hne (List.isEmpty_iff.mp hnil)
  simp only [rm, hargs, flagsOf, h, hoperands, Bool.false_eq_true, if_false]

theorem outcome_rm_forced {args operands : List Text} (hopen : s.volume.released = false)
    (habs : Path.isAbsolute s.directory = true) (hasks : AsksForAll args operands)
    (hne : operands ≠ []) (hroot : [] ∉ targets s.directory operands) :
    outcome (rm args) s = (.ok silence, s.prunedAll (targets s.directory operands)) := by
  obtain ⟨flags, hparse, hrecursive, hforce, rfl⟩ := hasks
  rw [rm_of_parse hparse hne, hrecursive, hforce]
  exact outcome_removeAll_forced hopen habs hroot

theorem rm_prunes (args : List Text) (s : Shell) :
    ∃ ps, (outcome (rm args) s).2 = s.prunedAll ps ∧
      ∀ p ∈ ps, p ≠ [] ∧ ∃ flags, Flags.parse ['r', 'R', 'f'] args = .ok flags ∧
        p ∈ targets s.directory flags.operands := by
  unfold rm flagsOf
  split
  · exact ⟨[], rfl, by simp⟩
  · cases hparse : Flags.parse ['r', 'R', 'f'] args with
    | error c => exact ⟨[], rfl, by simp⟩
    | ok flags =>
      simp only
      split
      · exact ⟨[], rfl, by simp⟩
      · obtain ⟨ps, hps, hrun⟩ := removeAll_prunes (flags.has 'r' || flags.has 'R') (flags.has 'f')
          flags.operands s
        exact ⟨ps, hrun, fun p hp => ⟨(hps p hp).1, flags, rfl, (hps p hp).2⟩⟩

/-- A shell that comes about has an absolute directory. In such a shell, if the volume is open, removing
with leave for directories and with force succeeds for any operands among which the root is not. What stands
at an operand or below one is gone then, and everything else is what it was; nothing but the tree changes.
The operands may be given in any order, and the flags in any way, with the same outcome; and to remove the
same operands again succeeds and changes nothing, at whatever time. In any shell and with any arguments the
root stays, and what is removed stands at an operand other than the root or below one. -/
theorem removal_is_exact :
    (∀ {start : Int} {settings : Settings} {commands : List (String × Offer Command)} {first : Shell},
      build start settings commands = .ok first → ∀ history,
        Path.isAbsolute (after first history).directory = true) ∧
    (∀ {s : Shell} {args operands : List Text}, Path.isAbsolute s.directory = true →
      s.volume.released = false → AsksForAll args operands → operands ≠ [] →
      [] ∉ targets s.directory operands →
        ∃ root, outcome (rm args) s =
            (.ok silence, { s with volume := { s.volume with root := root } }) ∧
          (∀ q, root.entry q =
            if ∃ p ∈ targets s.directory operands, p <+: q then none else s.volume.root.entry q) ∧
          (∀ args' operands', AsksForAll args' operands' → operands.Perm operands' →
            outcome (rm args') s = outcome (rm args) s) ∧
          ∀ later, outcome (rm args)
              { s with volume := { s.volume with root := root }, clock := later } =
            (.ok silence, { s with volume := { s.volume with root := root }, clock := later })) ∧
    ∀ (s : Shell) (args : List Text),
      (outcome (rm args) s).2.volume.root.entry [] = s.volume.root.entry [] ∧
      ∀ q, (∀ flags, Flags.parse ['r', 'R', 'f'] args = .ok flags →
          ∀ p ∈ targets s.directory flags.operands, p ≠ [] → ¬ p <+: q) →
        (outcome (rm args) s).2.volume.root.entry q = s.volume.root.entry q := by
  refine ⟨fun hfirst history => (upright_after hfirst history 0).absolute, ?_, fun s args => ?_⟩
  · intro s args operands habs hopen hasks hne hroot
    have hrun := outcome_rm_forced hopen habs hasks hne hroot
    have hentry : ∀ q, (s.prunedAll (targets s.directory operands)).volume.root.entry q =
        if ∃ p ∈ targets s.directory operands, p <+: q then none else s.volume.root.entry q := by
      intro q
      rw [entry_prunedAll]
      refine if_congr (exists_congr fun p => and_congr_right fun hp => and_iff_right ?_) rfl rfl
      rintro rfl
      exact hroot hp
    refine ⟨_, hrun, hentry, fun args' operands' hasks' hperm => ?_, fun later => ?_⟩
    · have htargets : (targets s.directory operands).Perm (targets s.directory operands') :=
        hperm.filterMap _
      have hne' : operands' ≠ [] := by
        rintro rfl
        exact hne hperm.eq_nil
      rw [hrun, prunedAll_perm s htargets]
      exact outcome_rm_forced hopen habs hasks' hne' fun h => hroot (htargets.mem_iff.mpr h)
    · -- what was to be removed is missing by now
      let t : Shell := { s.prunedAll (targets s.directory operands) with clock := later }
      have hagain : outcome (rm args) t = (.ok silence, t.prunedAll (targets s.directory operands)) :=
        outcome_rm_forced (s := t) hopen habs hasks hne hroot
      have hgone : t.prunedAll (targets s.directory operands) = t :=
        prunedAll_of_missing fun p hp => (hentry p).trans (if_pos ⟨p, hp, List.prefix_refl p⟩)
      rw [hgone] at hagain
      exact hagain
  · obtain ⟨ps, hrun, hps⟩ := rm_prunes args s
    have hkept : ∀ q, (∀ p ∈ ps, ¬ p <+: q) →
        (outcome (rm args) s).2.volume.root.entry q = s.volume.root.entry q := by
      intro q hoff
      rw [hrun, entry_prunedAll, if_neg]
      rintro ⟨p, hp, -, hpq⟩
      exact hoff p hp hpq
    refine ⟨hkept [] fun p hp h => (hps p hp).1 (List.prefix_nil.mp h), fun q hoff => ?_⟩
    refine hkept q fun p hp => ?_
    obtain ⟨hne, flags, hparse, htarget⟩ := hps p hp
    exact hoff flags hparse p htarget hne

/-- A directory is removed together with a file in it, with what is missing and with what a file is in the
way of, in two orders. A file beside them stays. -/
theorem removal_is_exact_overlapping :
    let a : Name := ⟨"a", by decide⟩
    let b : Name := ⟨"b", by decide⟩
    let k : Name := ⟨"k", by decide⟩
    let root : Node := .directory (.fresh Stamp.directoryMode 0)
      [(a, .directory (.fresh 0o700 0) [(b, .file (.fresh 0o600 0) [1])]),
        (k, .file (.fresh 0o600 0) [2])]
    ∃ first s t : Shell, build 0 .usual builtins = .ok first ∧
      s = { first with volume := ⟨root, false⟩ } ∧
      outcome (rm ["-rf", "a/b", "k/b", "b", "/a"]) s = (.ok silence, t) ∧
      outcome (rm ["-R", "/a", "b", "-f", "a/b", "k/b"]) s = (.ok silence, t) ∧
      t.volume.root.entry [a] = none ∧ t.volume.root.entry [a, b] = none ∧
      t.volume.root.entry [k] = some (.file 0o600 [2]) ∧
      outcome (rm ["-rf", "a/b", "k/b", "b", "/a"]) { t with clock := 1 } =
        (.ok silence, { t with clock := 1 }) ∧
      (outcome (rm ["-r", "a", "/"]) s).2.volume.root.entry [k] = some (.file 0o600 [2]) := by
  intro a b k root
  obtain ⟨first, hfirst⟩ : ∃ first, build 0 .usual builtins = .ok first := ⟨_, rfl⟩
  let s : Shell := { first with volume := ⟨root, false⟩ }
  obtain ⟨habsolute, hforced, hoff⟩ := removal_is_exact
  have habs : Path.isAbsolute s.directory = true := habsolute hfirst []
  have hslash : s.directory = [slash] := by
    obtain rfl := Except.ok.inj hfirst
    rfl
  have hasks : AsksForAll ["-rf", "a/b", "k/b", "b", "/a"] ["a/b", "k/b", "b", "/a"] :=
    ⟨⟨['r', 'f'], _⟩, rfl, rfl, rfl, rfl⟩
  have hasks' : AsksForAll ["-R", "/a", "b", "-f", "a/b", "k/b"] ["/a", "b", "a/b", "k/b"] :=
    ⟨⟨['R', 'f'], _⟩, rfl, rfl, rfl, rfl⟩
  have htargets : targets s.directory ["a/b", "k/b", "b", "/a"] = [[a, b], [k, b], [b], [a]] := by
    rw [hslash]
    decide +kernel
  obtain ⟨root', hrun, hentry, horders, hagain⟩ :=
    hforced habs rfl hasks (by simp) (by rw [htargets]; simp)
  rw [htargets] at hentry
  refine ⟨first, s, _, hfirst, rfl, hrun, (horders _ _ hasks' (by decide)).trans hrun, ?_, ?_, ?_,
    hagain 1, ?_⟩
  · exact (hentry [a]).trans (if_pos (by decide))
  · exact (hentry [a, b]).trans (if_pos (by decide))
  · exact (hentry [k]).trans rfl
  · have haside : ∀ p ∈ targets [slash] ["a", "/"], p ≠ [] → ¬ p <+: [k] := by decide +kernel
    refine ((hoff s ["-r", "a", "/"]).2 [k] fun flags hparse => ?_).trans rfl
    obtain rfl := Except.ok.inj hparse
    exact hslash ▸ haside

end Commands

end MemoryShell
