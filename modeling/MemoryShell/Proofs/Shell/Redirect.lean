import MemoryShell.Proofs.Shell.Emission
import MemoryShell.Proofs.Shell.Sustained
import MemoryShell.Proofs.Volume.Writing

set_option autoImplicit false

namespace MemoryShell.Shell

/-- Something has been said, and it is the answer. -/
def Says (r : Except Failure Json × Shell) (c : Channel) (message : Json) : Prop :=
  r.1 = .ok message ∧ ∃ before after, r.2.trace = before ++ .emitted c message :: after

theorem says_emit (c : Channel) (message : Json) (s : Shell) :
    Says (outcome (emit c message) s) c message := by
  obtain ⟨ls, steps, hrun⟩ := outcome_emit c message s
  rw [hrun]
  exact ⟨rfl, s.trace, steps, rfl⟩

theorem says_complain (message : Text) (s : Shell) :
    Says (outcome (complain message) s) .stderr (.string (Message.prefixed message)) :=
  says_emit .stderr _ s

variable {s : Shell}

theorem outcome_resolve (habs : Path.isAbsolute s.directory = true) (spelling : Text) :
    ∃ p, outcome (resolve spelling) s = (.ok p, s) := by
  obtain ⟨p, hp⟩ := Path.exists_resolve? habs spelling
  refine ⟨p, ?_⟩
  unfold resolve
  rw [outcome_bind, outcome_get]
  simp only [hp]
  rfl

theorem outcome_stat_released (hr : s.volume.released = true) (p : Path) :
    outcome (stat p) s = (.error (.volume .released), s) := by
  rw [stat, outcome_onVolume, Volume.outcome_stat]
  simp [Volume.find, hr, Except.map]

theorem outcome_stat_open (hr : s.volume.released = false) (p : Path) :
    outcome (stat p) s =
      (match s.volume.root.walk p with
        | .ok node => .ok (Volume.Stat.ofNode p node)
        | .error e => .error (.volume (.file e p.text)), s) := by
  rw [stat, outcome_onVolume, Volume.outcome_stat,
    Volume.find_of_parse? hr (Path.parse?_text p), Path.parse?_text]
  cases s.volume.root.walk p <;> rfl

theorem outcome_access_open (hr : s.volume.released = false) (p : Path) (request : Int) :
    outcome (onVolume fun _ => Volume.access p.text request) s =
      (match s.volume.root.walk p with
        | .error e => .error (.volume (.file e p.text))
        | .ok node =>
          if node.stamp.allows request then .ok () else .error (.volume (.file .accessDenied p.text)),
        s) := by
  rw [outcome_onVolume, Volume.outcome_access, Volume.find_of_parse? hr (Path.parse?_text p)]
  cases s.volume.root.walk p with
  | error e => rfl
  | ok node =>
    simp only [mapError_ok, Except.bind, Volume.demanded]
    cases node.stamp.allows request <;> rfl

theorem grants_eq (stamp : Stamp) (a : Access) :
    stamp.grants a = decide (stamp.mode / a.ownerBit % 2 = 1) := rfl

theorem outcome_isCreatable_open (hr : s.volume.released = false) (p : Path) :
    outcome (isCreatable p) s = (.ok (s.volume.grantsEntries p.dropLast), s) := by
  unfold isCreatable Volume.grantsEntries
  dsimp only
  rw [outcome_bind, outcome_attempt, outcome_bind, outcome_stat_open hr]
  cases hw : s.volume.root.walk p.dropLast with
  | error e =>
    rw [Node.entry_eq_none.mpr ⟨e, hw⟩]
    rfl
  | ok node =>
    simp only [outcome_bind, outcome_access_open hr, hw, Node.entry_of_walk hw,
      Stamp.allows_flag]
    cases node with
    | file t data =>
      cases hgrants : t.grants .write <;>
        simp [Node.stamp, hgrants, Node.toEntry, Volume.Stat.ofNode]
    | directory t es =>
      cases hgrants : t.grants .write <;>
        simp [Node.stamp, hgrants, Node.toEntry, Volume.Stat.ofNode, ← grants_eq]

theorem outcome_isWritable_open (hr : s.volume.released = false) (p : Path) :
    outcome (isWritable p) s = (.ok (s.volume.accepts p), s) := by
  unfold isWritable Volume.accepts
  rw [outcome_bind, outcome_attempt, outcome_stat_open hr]
  cases hw : s.volume.root.walk p with
  | ok node =>
    rw [Node.entry_of_walk hw]
    cases node with
    | directory t es => rfl
    | file t data =>
      simp only [Volume.Stat.ofNode, reduceCtorEq, if_false, outcome_bind, outcome_attempt,
        outcome_access_open hr, hw, Node.stamp, Stamp.allows_flag, Node.toEntry, ← grants_eq]
      cases t.grants .write <;> rfl
  | error e =>
    rw [Node.entry_eq_none.mpr ⟨e, hw⟩]
    by_cases he : e = .noEntry
    · subst he
      exact outcome_isCreatable_open hr p
    · simp only [Volume.grantsEntries_dropLast_eq_false hw he]
      cases e with
      | noEntry => exact absurd rfl he
      | _ => rfl

theorem outcome_isWritable_released (hr : s.volume.released = true) (p : Path) :
    outcome (isWritable p) s = (.error (.volume .released), s) := by
  unfold isWritable
  rw [outcome_bind, outcome_attempt, outcome_stat_released hr]
  rfl

theorem outcome_writeText_open (hr : s.volume.released = false) (mode : Volume.WriteMode)
    (p : Path) {t : Text} {data : Bytes} (hdata : Utf8.encodeText? t = some data) :
    (∃ u, outcome (onVolume fun now => Volume.writeText now mode p.text t) s = (.ok (), u)) ∨
      ∃ e path u, outcome (onVolume fun now => Volume.writeText now mode p.text t) s =
        (.error (.volume (.file e path)), u) := by
  rw [outcome_onVolume, Volume.outcome_writeText, hdata]
  simp only [Volume.outcome_writeFile]
  cases hw : s.volume.writable p.text with
  | ok slot => exact .inl ⟨_, rfl⟩
  | error f =>
    obtain ⟨e, path, rfl⟩ := Volume.writable_failure hr (Path.parse?_text p) hw
    exact .inr ⟨e, path, _, rfl⟩

theorem outcome_writeText_unencodable (mode : Volume.WriteMode) (p : Path) {t : Text}
    (ht : Utf8.encodeText? t = none) :
    outcome (onVolume fun now => Volume.writeText now mode p.text t) s =
      (.error (.volume .unencodable), s) := by
  rw [outcome_onVolume, Volume.outcome_writeText, ht]
  rfl

/-- An output that is to go to a target has no octets, and the file there may be written. -/
def Unwritable (s : Shell) (output target : Text) : Prop :=
  Utf8.encodeText? (output ++ "\n") = none ∧
    ∃ p, Path.resolve? s.directory target = some p ∧ s.volume.accepts p = true

theorem outcome_redirect_released (habs : Path.isAbsolute s.directory = true)
    (hr : s.volume.released = true) (output operator target command : Text) :
    outcome (redirect output operator target command) s = (.error (.volume .released), s) := by
  obtain ⟨p, hp⟩ := outcome_resolve habs target
  unfold redirect
  rw [outcome_bind_ok hp, outcome_bind, outcome_isWritable_released hr]

theorem ofSymbol?_symbol (op : RedirectionOperator) :
    RedirectionOperator.ofSymbol? op.symbol = some op := by
  cases op <;> rfl

/-- On an open volume an output that has no octets fails where it might be written. Any other redirection
has an answer: the output was written and nothing is said on the channel for output, or something is
said on the channel for complaints. -/
theorem redirect_cases (habs : Path.isAbsolute s.directory = true)
    (hr : s.volume.released = false) (output : Text) (op : RedirectionOperator)
    (target command : Text) :
    (Unwritable s output target ∧
      outcome (redirect output op.symbol target command) s = (.error (.volume .unencodable), s)) ∨
    (¬ Unwritable s output target ∧
      ∃ c message, Says (outcome (redirect output op.symbol target command) s) c
        (.string (Message.prefixed message)) ∧ (c = .stderr ∨ message = [])) := by
  obtain ⟨p, hp⟩ := Path.exists_resolve? habs target
  have hresolve : outcome (resolve target) s = (.ok p, s) := by
    unfold resolve
    rw [outcome_bind, outcome_get]
    simp only [hp]
    rfl
  have hunwritable : Unwritable s output target ↔
      Utf8.encodeText? (output ++ "\n") = none ∧ s.volume.accepts p = true := by
    simp [Unwritable, hp]
  rw [hunwritable]
  unfold redirect
  rw [outcome_bind_ok hresolve, outcome_bind_ok (outcome_isWritable_open hr p), ofSymbol?_symbol]
  cases s.volume.accepts p with
  | false => exact .inr ⟨by simp, .stderr, _, says_complain _ s, .inl rfl⟩
  | true =>
    simp only [Bool.not_true, Bool.false_eq_true, if_false, outcome_bind, outcome_attempt, and_true]
    cases hdata : Utf8.encodeText? (output ++ Text.ofString "\n") with
    | none =>
      rw [outcome_writeText_unencodable _ p hdata]
      exact .inl ⟨rfl, rfl⟩
    | some data =>
      refine .inr ⟨by simp, ?_⟩
      rcases outcome_writeText_open hr (writeMode op) p hdata with ⟨t, ht⟩ | ⟨e, path, t, ht⟩
      · rw [ht]
        exact ⟨.stdout, [], says_emit .stdout _ _, .inr rfl⟩
      · rw [ht]
        exact ⟨.stderr, _, says_complain _ t, .inl rfl⟩

end MemoryShell.Shell
