import MemoryShell.Proofs.Command.Flags
import MemoryShell.Proofs.Command.Removal

/-!
Commands over lists of operands. Touching and removing stop at the first operand that is refused, showing
stops there too and forgets what was read before, and making directories goes on and collects what went
wrong. In each case what a command does with some operands and then with others is what it does with all of
them at once, whatever the first ones do to the later ones.
-/

set_option autoImplicit false

namespace MemoryShell

namespace Volume

theorem outcome_makeBelow_cases (now : Int) (spelling : Text) (rest above : Path) (v : Volume) :
    ∃ w : Volume, w.released = v.released ∧
      (outcome (makeBelow now spelling above rest) v = (.ok (), w) ∨
        outcome (makeBelow now spelling above rest) v =
          (.error (.file .notDirectory spelling), w)) := by
  induction rest generalizing above v with
  | nil => exact ⟨v, rfl, .inl rfl⟩
  | cons name rest ih =>
    rw [outcome_makeBelow_cons]
    split
    · exact ih _ (v.placed now above name (.newDirectory now))
    · exact ⟨v, rfl, .inr rfl⟩
    · exact ih _ v

theorem making_cases {v : Volume} (hopen : v.released = false) (now : Int) (parents : Bool)
    (p : Path) :
    ∃ w : Volume, w.released = false ∧
      (outcome (if parents then makeDirectories now p.text else makeDirectory now p.text) v =
          (.ok (), w) ∨
        ∃ e path, outcome (if parents then makeDirectories now p.text
          else makeDirectory now p.text) v = (.error (.file e path), w)) := by
  cases parents with
  | true =>
    obtain ⟨w, hw, hcases⟩ := outcome_makeBelow_cases now p.text p [] v
    have hrun : outcome (makeDirectories now p.text) v = outcome (makeBelow now p.text [] p) v := by
      rw [outcome_makeDirectories, hopen, Path.parse?_text]
      rfl
    simp only [if_true, hrun]
    exact ⟨w, hw.trans hopen, hcases.imp id fun h => ⟨_, _, h⟩⟩
  | false =>
    simp only [Bool.false_eq_true, if_false, outcome_makeDirectory]
    cases hslot : v.slot p.text with
    | error e =>
      obtain ⟨errno, path, rfl⟩ := slot_failure hopen (Path.parse?_text p) hslot
      exact ⟨v, hopen, .inr ⟨errno, path, rfl⟩⟩
    | ok slot =>
      simp only [demanded]
      cases slot.node? with
      | some node => exact ⟨v, hopen, .inr ⟨_, _, rfl⟩⟩
      | none =>
        cases slot.stamp.allows Access.write.flag with
        | true =>
          exact ⟨v.placed now slot.directory slot.name (.newDirectory now), hopen, .inl rfl⟩
        | false => exact ⟨v, hopen, .inr ⟨_, _, rfl⟩⟩

end Volume

namespace Commands

open Shell

/-- However many of some operands are given, they are what is read behind the same flags. -/
def Gives (allowed : Text) (letters : Except CodePoint Text)
    (given : List Text → List Text) (operands : List Text) : Prop :=
  ∀ chosen, chosen ≠ [] → (∀ o ∈ chosen, o ∈ operands) →
    Flags.parse allowed (given chosen) = letters.map fun ls => ⟨ls, chosen⟩

def andThen (first second : ShellM Outcome) : ShellM Outcome := do
  match ← first with
  | .output _ => second
  | .refused kind message => pure (.refused kind message)

/-- Does something for each operand until it is refused for one. -/
def untilRefused (step : Text → ShellM (Option Outcome)) : List Text → ShellM Outcome
  | [] => pure silence
  | operand :: rest => do
    match ← step operand with
    | none => untilRefused step rest
    | some refusal => pure refusal

/-- What is done for an operand, if it does not fail, is done in silence or refused. -/
def RefusesOnly (step : Text → ShellM (Option Outcome)) : Prop :=
  ∀ operand, Keeps (fun _ => True)
    (fun r => ∀ o, r = some o → ∃ kind message, o = .refused kind message) (step operand)

def touchOne (operand : Text) : ShellM (Option Outcome) := do
  let p ← resolve operand
  match ← tryFiles (onVolume fun now => Volume.setTimes p.text (.integer now)) with
  | .ok _ => pure none
  | .error .noEntry => makeFile p
  | .error e =>
    pure (some (.refused .unknown ("touch: cannot touch '" ++ operand ++ "': " ++ e.message)))

def removeOperand (recursive force : Bool) (operand : Text) : ShellM (Option Outcome) := do
  let p ← resolve operand
  if p = [] then
    return some (.refused .permissionDenied "rm: it is dangerous to operate recursively on '/'")
  match ← tryFiles (removeOne recursive p) with
  | .ok none => pure none
  | .ok (some message) => pure (some (.refused .unknown message))
  | .error e =>
    if e.isMissing then
      if force then pure none
      else pure (some (.refused .noSuchDirectory (Message.noSuchDirectory p.text "rm")))
    else
      pure (some (.refused .unknown ("rm: cannot remove '" ++ p.text ++ "': " ++ e.message)))

theorem touchAll_eq_untilRefused (operands : List Text) :
    touchAll operands = untilRefused touchOne operands := by
  induction operands with
  | nil => rfl
  | cons operand rest ih =>
    rw [touchAll, untilRefused, touchOne, bind_assoc]
    refine bind_congr fun p => ?_
    rw [bind_assoc]
    refine bind_congr fun r => ?_
    rw [ih]
    rcases r with e | _
    · cases e
      case noEntry =>
        refine bind_congr fun r => ?_
        cases r <;> rfl
      all_goals rfl
    · rfl

theorem removeAll_eq_untilRefused (recursive force : Bool) (operands : List Text) :
    removeAll recursive force operands =
      untilRefused (removeOperand recursive force) operands := by
  induction operands with
  | nil => rfl
  | cons operand rest ih =>
    rw [removeAll, untilRefused, removeOperand, bind_assoc]
    refine bind_congr fun p => ?_
    split
    · rfl
    · rw [bind_assoc]
      refine bind_congr fun r => ?_
      rw [ih]
      rcases r with e | (_ | message)
      · simp only
        split
        · cases force <;> rfl
        · rfl
      · rfl
      · rfl

theorem keeps_anything {α : Type} (x : ShellM α) : Keeps (fun _ => True) (fun _ => True) x :=
  fun _ _ => ⟨fun _ _ => trivial, trivial⟩

theorem refusesOnly_touchOne : RefusesOnly touchOne := by
  intro operand
  refine (keeps_anything _).bind fun p _ => (keeps_anything _).bind fun r _ => ?_
  split
  · exact Keeps.pure nofun
  · refine (keeps_anything _).bind fun r _ => ?_
    split
    · exact Keeps.pure nofun
    · exact Keeps.pure fun o ho => ⟨_, _, (Option.some.inj ho).symm⟩
  · exact Keeps.pure fun o ho => ⟨_, _, (Option.some.inj ho).symm⟩

theorem refusesOnly_removeOperand (recursive force : Bool) :
    RefusesOnly (removeOperand recursive force) := by
  intro operand
  refine (keeps_anything _).bind fun p _ => ?_
  split
  · exact Keeps.pure fun o ho => ⟨_, _, (Option.some.inj ho).symm⟩
  · refine (keeps_anything _).bind fun r _ => ?_
    split
    · exact Keeps.pure nofun
    · exact Keeps.pure fun o ho => ⟨_, _, (Option.some.inj ho).symm⟩
    · split
      · split
        · exact Keeps.pure nofun
        · exact Keeps.pure fun o ho => ⟨_, _, (Option.some.inj ho).symm⟩
      · exact Keeps.pure fun o ho => ⟨_, _, (Option.some.inj ho).symm⟩

theorem outcome_untilRefused_append {step : Text → ShellM (Option Outcome)} (h : RefusesOnly step)
    (xs ys : List Text) (s : Shell) :
    outcome (untilRefused step (xs ++ ys)) s =
      outcome (andThen (untilRefused step xs) (untilRefused step ys)) s := by
  induction xs generalizing s with
  | nil => rfl
  | cons x xs ih =>
    rw [List.cons_append, untilRefused, andThen, untilRefused, bind_assoc, outcome_bind, outcome_bind]
    have hrefused := (h x s trivial).1
    rcases hstep : outcome (step x) s with ⟨f | r, t⟩
    · rfl
    · cases r with
      | none => exact ih t
      | some o =>
        obtain ⟨kind, message, rfl⟩ := hrefused _ (by rw [hstep]) o rfl
        rfl

section

variable {s : Shell} {xs ys : List Text}

/-- Some operands are shown as a text, whatever was read before and whatever else is to be shown. -/
def Shows (s : Shell) (xs : List Text) (text : Text) : Prop :=
  ∀ before rest, outcome (catAfter before (xs ++ rest)) s = outcome (catAfter (before ++ text) rest) s

/-- Showing some operands comes to something else than an output, whatever was read before and whatever
else is to be shown. -/
def Balks (s : Shell) (xs : List Text) (r : Except Failure Outcome) : Prop :=
  (∀ v, r ≠ .ok (.output v)) ∧ ∀ before rest, outcome (catAfter before (xs ++ rest)) s = (r, s)

theorem shows_nil (s : Shell) : Shows s [] [] := fun before rest => by
  rw [List.nil_append, List.append_nil]

theorem Shows.append {a b : Text} (hxs : Shows s xs a) (hys : Shows s ys b) :
    Shows s (xs ++ ys) (a ++ b) := fun before rest => by
  rw [List.append_assoc, hxs, hys, List.append_assoc]

theorem Balks.append {r : Except Failure Outcome} (hxs : Balks s xs r) (ys : List Text) :
    Balks s (xs ++ ys) r := by
  refine ⟨hxs.1, fun before rest => ?_⟩
  rw [List.append_assoc]
  exact hxs.2 before (ys ++ rest)

theorem Shows.balks {a : Text} {r : Except Failure Outcome} (hxs : Shows s xs a)
    (hys : Balks s ys r) : Balks s (xs ++ ys) r := by
  refine ⟨hys.1, fun before rest => ?_⟩
  rw [List.append_assoc, hxs]
  exact hys.2 _ rest

theorem Shows.not_balks {a : Text} {r : Except Failure Outcome} (h : Shows s xs a) :
    ¬ Balks s xs r := by
  intro hr
  have hrun := (h [] []).symm.trans (hr.2 [] [])
  exact hr.1 _ (Prod.mk.inj hrun).1.symm

theorem Shows.outcome_cat {a : Text} (h : Shows s xs a) : outcome (cat xs) s = (.ok (.text a), s) := by
  have hrun := h [] []
  rw [List.append_nil, List.nil_append] at hrun
  exact hrun

theorem Balks.outcome_cat {r : Except Failure Outcome} (h : Balks s xs r) :
    outcome (cat xs) s = (r, s) := by
  have hrun := h.2 [] []
  rw [List.append_nil] at hrun
  exact hrun

def balked (p : Path) : Except Failure (Except Errno (Option Text)) → Except Failure Outcome
  | .error f => .error f
  | .ok (.ok _) => .ok (.refused .notADirectory (Message.notADirectory p.base "cat"))
  | .ok (.error e) =>
    if e.isMissing then .ok (.refused .noSuchDirectory (Message.noSuchDirectory p.base "cat"))
    else if e.isPermission then
      .ok (.refused .permissionDenied ("cat: " ++ p.base ++ ": " ++ e.message))
    else .error (.volume (.file e p.text))

theorem balked_ne_output (p : Path) (r : Except Failure (Except Errno (Option Text))) (v : Json) :
    balked p r ≠ .ok (.output v) := by
  unfold balked
  split
  · nofun
  · nofun
  · split
    · nofun
    · split <;> nofun

theorem outcome_catAfter_cons {x : Text} {p : Path}
    (hp : Path.resolve? s.directory x = some p) (before : Text)
    (rest : List Text) :
    outcome (catAfter before (x :: rest)) s =
      match (outcome (tryFiles (fileText p)) s).1 with
      | .ok (.ok (some text)) => outcome (catAfter (before ++ text) rest) s
      | r => (balked p r, s) := by
  have hstays : (outcome (tryFiles (fileText p)) s).2 = s :=
    (keeps_tryFiles (I := (· = s)) (keeps_fileText p) s rfl).2
  rw [catAfter, outcome_bind_ok (outcome_resolve_of_eq_some hp), outcome_bind]
  rcases hread : outcome (tryFiles (fileText p)) s with ⟨f | (e | (_ | text)), t⟩ <;>
    obtain rfl : t = s := by rw [← hstays, hread]
  · rfl
  · simp only [balked]
    split
    · rfl
    · split <;> rfl
  · rfl
  · rfl

theorem shows_or_balks (s : Shell) (x : Text) :
    (∃ a, Shows s [x] a) ∨ ∃ r, Balks s [x] r := by
  cases hp : Path.resolve? s.directory x with
  | none =>
    obtain ⟨f, hfails⟩ := exists_failure_of_resolve?_eq_none hp
    refine .inr ⟨.error f, nofun, fun before rest => ?_⟩
    rw [List.singleton_append, catAfter, outcome_bind_error hfails]
  | some p =>
    have hgoes := outcome_catAfter_cons hp
    rcases hread : (outcome (tryFiles (fileText p)) s).1 with f | (e | (_ | text)) <;>
      simp only [hread] at hgoes
    · exact .inr ⟨_, balked_ne_output p _, hgoes⟩
    · exact .inr ⟨_, balked_ne_output p _, hgoes⟩
    · exact .inr ⟨_, balked_ne_output p _, hgoes⟩
    · exact .inl ⟨text, hgoes⟩

theorem shows_or_balks_first (s : Shell) (xs : List Text) :
    (∃ a, Shows s xs a) ∨
      ∃ front x back r, xs = front ++ x :: back ∧ (∀ y ∈ front, ∃ a, Shows s [y] a) ∧
        Balks s [x] r ∧ Balks s xs r := by
  induction xs with
  | nil => exact .inl ⟨"", shows_nil s⟩
  | cons x xs ih =>
    rcases shows_or_balks s x with ⟨a, hx⟩ | ⟨r, hx⟩
    · rcases ih with ⟨b, hxs⟩ | ⟨front, y, back, r, rfl, hfront, hy, hall⟩
      · exact .inl ⟨a ++ b, hx.append hxs⟩
      · refine .inr ⟨x :: front, y, back, r, rfl, fun z hz => ?_, hy, hx.balks hall⟩
        rcases List.mem_cons.mp hz with rfl | hz
        · exact ⟨a, hx⟩
        · exact hfront z hz
    · exact .inr ⟨[], x, xs, r, rfl, by simp, hx, hx.append xs⟩

end

section

variable {allowed : Text}

theorem parse_operands {operands : List Text} (h : ∀ o ∈ operands, Flags.cluster? o = none) :
    Flags.parse allowed operands = .ok ⟨[], operands⟩ := by
  induction operands with
  | nil => rfl
  | cons o rest ih =>
    have ho := Flags.cluster?_eq_none_iff.mp (h o List.mem_cons_self)
    rw [Flags.parse_operand ho, ih fun o ho => h o (List.mem_cons_of_mem _ ho)]
    rfl

theorem exists_letters {flags : List Text}
    (h : ∀ f ∈ flags, ∃ ls, Flags.cluster? f = some ls ∧ ls ≠ ['-']) :
    ∃ letters : Except CodePoint Text, ∀ operands,
      ((∀ o ∈ operands, Flags.cluster? o = none) →
        Flags.parse allowed (flags ++ operands) = letters.map fun ls => ⟨ls, operands⟩) ∧
      Flags.parse allowed (flags ++ Flags.ending :: operands) = letters.map fun ls => ⟨ls, operands⟩ := by
  have hclusters : ∀ f ∈ flags, Flags.IsCluster f := by
    intro f hf
    obtain ⟨ls, hls, -⟩ := h f hf
    by_contra hno
    cases (Flags.cluster?_eq_none_iff.mpr hno).symm.trans hls
  have hdashes : Flags.ending ∉ flags := by
    intro hmem
    obtain ⟨ls, hls, hne⟩ := h Flags.ending hmem
    exact hne (Option.some.inj hls).symm
  have hread : ∀ {rest operands : List Text}, Flags.parse allowed rest = .ok ⟨[], operands⟩ →
      Flags.parse allowed (flags ++ rest) =
        (Flags.permitted allowed (Flags.clustered flags)).map fun ls => ⟨ls, operands⟩ := by
    intro rest operands hrest
    rw [Flags.parse_append hdashes, hrest, Flags.beside_eq_nil hclusters]
    cases Flags.permitted allowed (Flags.clustered flags) <;> simp [bind, Except.bind, Except.map]
  exact ⟨_, fun operands => ⟨fun hoperands => hread (parse_operands hoperands), hread rfl⟩⟩

end

section

variable {s : Shell}

def collected : List Text → Outcome
  | [] => silence
  | messages => .refused .unknown (List.intercalate (Text.ofString "\n") messages)

/-- A command is run for one operand after another, and at each it is silent or complains. -/
inductive OneByOne (command : List Text → ShellM Outcome) :
    Shell → List Text → List (Option Text) → Shell → Prop
  | nil (s : Shell) : OneByOne command s [] [] s
  | cons {s t u : Shell} {x : Text} {xs : List Text} {r : Option Text}
      {rs : List (Option Text)} :
      outcome (command [x]) s = (.ok (collected r.toList), t) → OneByOne command t xs rs u →
        OneByOne command s (x :: xs) (r :: rs) u

theorem makeAll_append (parents : Bool) (xs ys : List Text) :
    makeAll parents (xs ++ ys) =
      makeAll parents xs >>= fun messages => (messages ++ ·) <$> makeAll parents ys := by
  induction xs with
  | nil => simp [makeAll]
  | cons x xs ih =>
    rw [List.cons_append, makeAll, makeAll, ih, bind_assoc]
    refine bind_congr fun p => ?_
    rw [bind_assoc]
    refine bind_congr fun r => ?_
    cases r <;> simp

theorem collected_eq_silence_iff {messages : List Text} :
    collected messages = silence ↔ messages = [] := by
  cases messages with
  | nil => exact iff_of_true rfl rfl
  | cons m ms => exact iff_of_false nofun nofun

theorem outcome_makeAll_one (hopen : s.volume.released = false)
    (habs : Path.isAbsolute s.directory = true) (parents : Bool) (x : Text) :
    ∃ (r : Option Text) (t : Shell), outcome (makeAll parents [x]) s = (.ok r.toList, t) ∧
      t.volume.released = false ∧ t.directory = s.directory := by
  obtain ⟨p, hp⟩ := Path.exists_resolve? habs x
  obtain ⟨w, hw, hmade⟩ := Volume.making_cases hopen s.clock parents p
  have hrun : ∀ {r : Except Volume.Error Unit}, outcome (if parents then
      Volume.makeDirectories s.clock p.text else Volume.makeDirectory s.clock p.text) s.volume =
        (r, w) → outcome (onVolume fun now => if parents then Volume.makeDirectories now p.text
          else Volume.makeDirectory now p.text) s = (r.mapError .volume, { s with volume := w }) := by
    intro r hr
    rw [outcome_onVolume, hr]
  rcases hmade with hok | ⟨e, path, hfails⟩
  · refine ⟨none, { s with volume := w }, ?_, hw, rfl⟩
    rw [makeAll, outcome_bind_ok (outcome_resolve_of_eq_some hp), outcome_bind, outcome_tryFiles,
      hrun hok]
    rfl
  · refine ⟨some (Message.directoryNotMade p.base e.message), { s with volume := w }, ?_, hw, rfl⟩
    rw [makeAll, outcome_bind_ok (outcome_resolve_of_eq_some hp), outcome_bind, outcome_tryFiles,
      hrun hfails]
    rfl

theorem outcome_mkdir_of_parse {args : List Text} {flags : Flags}
    (h : Flags.parse ['p'] args = .ok flags) (hne : flags.operands ≠ []) (s : Shell) :
    outcome (mkdir args) s =
      outcome (collected <$> makeAll (flags.has 'p') flags.operands) s := by
  have hargs : args.isEmpty = false := by
    cases args with
    | nil =>
      obtain rfl := Except.ok.inj h
      cases hne rfl
    | cons arg args => rfl
  have hoperands : flags.operands.isEmpty = false :=
    Bool.eq_false_iff.mpr fun hnil => hne (List.isEmpty_iff.mp hnil)
  simp only [mkdir, hargs, flagsOf, h, hoperands, Bool.false_eq_true, if_false]
  rw [map_eq_pure_bind, outcome_bind, outcome_bind]
  rcases outcome (makeAll (flags.has 'p') flags.operands) s with ⟨f | (_ | ⟨m, ms⟩), t⟩ <;> rfl

theorem exists_oneByOne {letters : Text} {given : List Text → List Text}
    {operands : List Text} (hgiven : Gives ['p'] (.ok letters) given operands)
    {xs : List Text} (hxs : ∀ x ∈ xs, x ∈ operands) (hopen : s.volume.released = false)
    (habs : Path.isAbsolute s.directory = true) :
    ∃ rs t, OneByOne (fun chosen => mkdir (given chosen)) s xs rs t ∧
      outcome (makeAll (letters.contains 'p') xs) s = (.ok rs.reduceOption, t) ∧
      t.volume.released = false ∧ t.directory = s.directory := by
  induction xs generalizing s with
  | nil => exact ⟨[], s, .nil s, rfl, hopen, rfl⟩
  | cons x xs ih =>
    obtain ⟨r, t, hone, htopen, htdir⟩ := outcome_makeAll_one hopen habs (letters.contains 'p') x
    obtain ⟨rs, u, hrest, hall, huopen, hudir⟩ :=
      ih (fun x hx => hxs x (List.mem_cons_of_mem _ hx)) htopen (htdir ▸ habs)
    have hread := hgiven [x] (by simp) fun o ho => List.mem_singleton.mp ho ▸ hxs x List.mem_cons_self
    have hfirst : outcome (mkdir (given [x])) s = (.ok (collected r.toList), t) := by
      rw [outcome_mkdir_of_parse hread (by simp), outcome_map]
      exact congrArg (fun q => (q.1.map collected, q.2)) hone
    refine ⟨r :: rs, u, .cons hfirst hrest, ?_, huopen, hudir.trans htdir⟩
    rw [← List.singleton_append, makeAll_append, outcome_bind_ok hone, outcome_map, hall]
    cases r <;> rfl

theorem mkdir_append {letters : Text} {given : List Text → List Text} {xs ys : List Text}
    (hgiven : Gives ['p'] (.ok letters) given (xs ++ ys)) (hxs : xs ≠ []) (hys : ys ≠ [])
    (hopen : s.volume.released = false) (habs : Path.isAbsolute s.directory = true) :
    ∃ rs qs t u, OneByOne (fun chosen => mkdir (given chosen)) s xs rs t ∧
      OneByOne (fun chosen => mkdir (given chosen)) t ys qs u ∧
      outcome (mkdir (given xs)) s = (.ok (collected rs.reduceOption), t) ∧
      outcome (mkdir (given ys)) t = (.ok (collected qs.reduceOption), u) ∧
      outcome (mkdir (given (xs ++ ys))) s =
        (.ok (collected (rs.reduceOption ++ qs.reduceOption)), u) := by
  have hmkdir : ∀ {chosen : List Text} (s : Shell), chosen ≠ [] →
      (∀ o ∈ chosen, o ∈ xs ++ ys) → outcome (mkdir (given chosen)) s =
        outcome (collected <$> makeAll (letters.contains 'p') chosen) s := by
    intro chosen s hne hsub
    exact outcome_mkdir_of_parse (hgiven chosen hne hsub) hne s
  have hleft : ∀ x ∈ xs, x ∈ xs ++ ys := fun x hx => List.mem_append_left ys hx
  have hright : ∀ y ∈ ys, y ∈ xs ++ ys := fun y hy => List.mem_append_right xs hy
  obtain ⟨rs, t, hfirst, hxsrun, htopen, htdir⟩ := exists_oneByOne hgiven hleft hopen habs
  obtain ⟨qs, u, hsecond, hysrun, -, -⟩ := exists_oneByOne hgiven hright htopen (htdir ▸ habs)
  refine ⟨rs, qs, t, u, hfirst, hsecond, ?_, ?_, ?_⟩
  · rw [hmkdir s hxs hleft, outcome_map, hxsrun]
    rfl
  · rw [hmkdir t hys hright, outcome_map, hysrun]
    rfl
  · rw [hmkdir s (by simp [hxs]) fun o ho => ho, makeAll_append, outcome_map, outcome_bind_ok hxsrun,
      outcome_map, hysrun]
    rfl

end

theorem outcome_runBuiltin_touch {xs : List Text} (h : xs ≠ []) :
    runBuiltin .touch xs = touchAll xs := by
  obtain ⟨x, rest, rfl⟩ := List.exists_cons_of_ne_nil h
  rfl

theorem outcome_touch_append {xs ys : List Text} (hxs : xs ≠ []) (hys : ys ≠ []) (s : Shell) :
    outcome (runBuiltin .touch (xs ++ ys)) s =
      outcome (andThen (runBuiltin .touch xs) (runBuiltin .touch ys)) s := by
  rw [outcome_runBuiltin_touch hxs, outcome_runBuiltin_touch hys,
    outcome_runBuiltin_touch (by simp [hxs]), touchAll_eq_untilRefused, touchAll_eq_untilRefused,
    touchAll_eq_untilRefused, outcome_untilRefused_append refusesOnly_touchOne]

theorem outcome_rm_append {letters : Except CodePoint Text} {given : List Text → List Text}
    {xs ys : List Text} (hgiven : Gives ['r', 'R', 'f'] letters given (xs ++ ys)) (hxs : xs ≠ [])
    (hys : ys ≠ []) (s : Shell) :
    outcome (rm (given (xs ++ ys))) s = outcome (andThen (rm (given xs)) (rm (given ys))) s := by
  have hall := hgiven (xs ++ ys) (by simp [hxs]) fun o ho => ho
  have hfirst := hgiven xs hxs fun x hx => List.mem_append_left ys hx
  have hsecond := hgiven ys hys fun y hy => List.mem_append_right xs hy
  cases letters with
  | error c =>
    have hrefused : ∀ {args : List Text},
        Flags.parse ['r', 'R', 'f'] args = .error c → args.isEmpty = false := by
      intro args hparse
      cases args with
      | nil => cases hparse
      | cons arg args => rfl
    simp only [rm, flagsOf, hrefused hall, hrefused hfirst, hall, hfirst]
    rfl
  | ok letters =>
    rw [rm_of_parse hall (by simp [hxs]), rm_of_parse hfirst hxs, rm_of_parse hsecond hys,
      removeAll_eq_untilRefused, removeAll_eq_untilRefused, removeAll_eq_untilRefused]
    exact outcome_untilRefused_append (refusesOnly_removeOperand _ _) xs ys s

theorem outcome_runBuiltin_cat {xs : List Text} (h : xs ≠ []) : runBuiltin .cat xs = cat xs := by
  obtain ⟨x, rest, rfl⟩ := List.exists_cons_of_ne_nil h
  rfl

theorem outcome_cat_append {xs ys : List Text} (hxs : xs ≠ []) (hys : ys ≠ []) (s : Shell) :
    (∃ a b, outcome (runBuiltin .cat xs) s = (.ok (.text a), s) ∧
        outcome (runBuiltin .cat ys) s = (.ok (.text b), s) ∧
        outcome (runBuiltin .cat (xs ++ ys)) s = (.ok (.text (a ++ b)), s)) ∨
      ((∀ v, (outcome (runBuiltin .cat xs) s).1 ≠ .ok (.output v)) ∨
        ∀ v, (outcome (runBuiltin .cat ys) s).1 ≠ .ok (.output v)) ∧
      ∃ front x back r, xs ++ ys = front ++ x :: back ∧
        (∀ y ∈ front, ∃ a, outcome (runBuiltin .cat [y]) s = (.ok (.text a), s)) ∧
        (∀ v, r ≠ .ok (.output v)) ∧ outcome (runBuiltin .cat [x]) s = (r, s) ∧
        outcome (runBuiltin .cat (xs ++ ys)) s = (r, s) := by
  rw [outcome_runBuiltin_cat hxs, outcome_runBuiltin_cat hys, outcome_runBuiltin_cat (by simp [hxs])]
  have hbalks : ∀ {zs : List Text} {r : Except Failure Outcome}, Balks s zs r →
      ∀ v, (outcome (cat zs) s).1 ≠ .ok (.output v) := by
    intro zs r h v
    rw [h.outcome_cat]
    exact h.1 v
  have hfirst : ∀ {r : Except Failure Outcome}, Balks s (xs ++ ys) r →
      ∃ front x back r, xs ++ ys = front ++ x :: back ∧
        (∀ y ∈ front, ∃ a, outcome (runBuiltin .cat [y]) s = (.ok (.text a), s)) ∧
        (∀ v, r ≠ .ok (.output v)) ∧ outcome (runBuiltin .cat [x]) s = (r, s) ∧
        outcome (cat (xs ++ ys)) s = (r, s) := by
    intro r hends
    rcases shows_or_balks_first s (xs ++ ys) with
      ⟨a, ha⟩ | ⟨front, x, back, r, heq, hfront, hx, hall⟩
    · exact absurd hends ha.not_balks
    · refine ⟨front, x, back, r, heq, fun y hy => ?_, hx.1, hx.outcome_cat, hall.outcome_cat⟩
      obtain ⟨a, ha⟩ := hfront y hy
      exact ⟨a, ha.outcome_cat⟩
  rcases shows_or_balks_first s xs with ⟨a, ha⟩ | ⟨-, -, -, r, -, -, -, hends⟩
  · rcases shows_or_balks_first s ys with ⟨b, hb⟩ | ⟨-, -, -, r, -, -, -, hends⟩
    · exact .inl ⟨a, b, ha.outcome_cat, hb.outcome_cat, (ha.append hb).outcome_cat⟩
    · exact .inr ⟨.inr (hbalks hends), hfirst (ha.balks hends)⟩
  · exact .inr ⟨.inl (hbalks hends), hfirst (hends.append ys)⟩

theorem outcome_mkdir_not_allowed {c : CodePoint} {args : List Text}
    (h : Flags.parse ['p'] args = .error c) (s : Shell) :
    outcome (mkdir args) s =
      (.ok (.refused .invalidOperator (Message.invalidOperator [c])), s) := by
  have hargs : args.isEmpty = false := by
    cases args with
    | nil => cases h
    | cons arg args => rfl
  simp only [mkdir, hargs, flagsOf, h]
  rfl

/-- Flags in front of operands, with or without two dashes between them, are read alike whatever the
operands are. So are the flags below, with which a command is given some of the operands.

Touching all operands is touching some and, unless these are refused, the others; and so is removing. All
operands are shown as the texts of some and of the others, if both are shown; otherwise showing them all
comes to what it comes to at the first one that is not shown, and no text is put out. In an open volume and
with flags that are allowed, making directories of all operands is making them of some and then of the
others, one after another; the messages are those of the ones that are not made, in their order, and there
are none just in case that neither part has any. Nothing is made if a flag is not allowed. -/
theorem commands_decompose :
    (∀ (allowed : Text) (flags : List Text),
      (∀ f ∈ flags, ∃ ls, Flags.cluster? f = some ls ∧ ls ≠ ['-']) →
        ∃ letters, ∀ operands,
          ((∀ o ∈ operands, Flags.cluster? o = none) →
            Gives allowed letters (fun chosen => flags ++ chosen) operands) ∧
          Gives allowed letters (fun chosen => flags ++ Flags.ending :: chosen) operands) ∧
    ∀ (s : Shell) (xs ys : List Text), xs ≠ [] → ys ≠ [] →
      outcome (runBuiltin .touch (xs ++ ys)) s =
        outcome (andThen (runBuiltin .touch xs) (runBuiltin .touch ys)) s ∧
      (∀ letters given, Gives ['r', 'R', 'f'] letters given (xs ++ ys) →
        outcome (runBuiltin .rm (given (xs ++ ys))) s =
          outcome (andThen (runBuiltin .rm (given xs)) (runBuiltin .rm (given ys))) s) ∧
      ((∃ a b, outcome (runBuiltin .cat xs) s = (.ok (.text a), s) ∧
          outcome (runBuiltin .cat ys) s = (.ok (.text b), s) ∧
          outcome (runBuiltin .cat (xs ++ ys)) s = (.ok (.text (a ++ b)), s)) ∨
        ((∀ v, (outcome (runBuiltin .cat xs) s).1 ≠ .ok (.output v)) ∨
          ∀ v, (outcome (runBuiltin .cat ys) s).1 ≠ .ok (.output v)) ∧
        ∃ front x back r, xs ++ ys = front ++ x :: back ∧
          (∀ y ∈ front, ∃ a, outcome (runBuiltin .cat [y]) s = (.ok (.text a), s)) ∧
          (∀ v, r ≠ .ok (.output v)) ∧ outcome (runBuiltin .cat [x]) s = (r, s) ∧
          outcome (runBuiltin .cat (xs ++ ys)) s = (r, s)) ∧
      (∀ letters given, s.volume.released = false → Path.isAbsolute s.directory = true →
        Gives ['p'] (.ok letters) given (xs ++ ys) →
        ∃ rs qs t u,
          OneByOne (fun chosen => runBuiltin .mkdir (given chosen)) s xs rs t ∧
          OneByOne (fun chosen => runBuiltin .mkdir (given chosen)) t ys qs u ∧
          outcome (runBuiltin .mkdir (given xs)) s = (.ok (collected rs.reduceOption), t) ∧
          outcome (runBuiltin .mkdir (given ys)) t = (.ok (collected qs.reduceOption), u) ∧
          outcome (runBuiltin .mkdir (given (xs ++ ys))) s =
            (.ok (collected (rs.reduceOption ++ qs.reduceOption)), u) ∧
          (collected (rs.reduceOption ++ qs.reduceOption) = silence ↔
            collected rs.reduceOption = silence ∧ collected qs.reduceOption = silence)) ∧
      ∀ c given, Gives ['p'] (.error c) given (xs ++ ys) →
        ∀ chosen, chosen ≠ [] → (∀ o ∈ chosen, o ∈ xs ++ ys) →
          outcome (runBuiltin .mkdir (given chosen)) s =
            (.ok (.refused .invalidOperator (Message.invalidOperator [c])), s) := by
  refine ⟨fun allowed flags hflags => ?_, fun s xs ys hxs hys => ⟨outcome_touch_append hxs hys s,
    fun letters given hgiven => outcome_rm_append hgiven hxs hys s, outcome_cat_append hxs hys s,
    fun letters given hopen habs hgiven => ?_, fun c given hgiven chosen hne hsub => ?_⟩⟩
  · obtain ⟨letters, hread⟩ := exists_letters hflags
    refine ⟨letters, fun operands => ⟨fun hoperands chosen _ hsub => ?_, fun chosen _ _ => ?_⟩⟩
    · exact (hread chosen).1 fun o ho => hoperands o (hsub o ho)
    · exact (hread chosen).2
  · obtain ⟨rs, qs, t, u, hfirst, hsecond, hxsrun, hysrun, hall⟩ :=
      mkdir_append hgiven hxs hys hopen habs
    refine ⟨rs, qs, t, u, hfirst, hsecond, hxsrun, hysrun, hall, ?_⟩
    rw [collected_eq_silence_iff, collected_eq_silence_iff, collected_eq_silence_iff,
      List.append_eq_nil_iff]
  · exact outcome_mkdir_not_allowed (hgiven chosen hne hsub) s

/-- In a new shell a directory is made together with one that is there by then and one that has nothing to
be in, all spelled behind two dashes; and flags, allowed or not, are read in front of other operands. -/
theorem commands_decompose_new_shell :
    let dashed : List Text → List Text := fun chosen => Flags.ending :: chosen
    ∃ first rs qs t u, build 0 .usual builtins = .ok first ∧
      OneByOne (fun chosen => runBuiltin .mkdir (dashed chosen)) first ["-a"] rs t ∧
      OneByOne (fun chosen => runBuiltin .mkdir (dashed chosen)) t ["/-a", "c/d"] qs u ∧
      outcome (runBuiltin .mkdir ["--", "-a", "/-a", "c/d"]) first =
        (.ok (.refused .unknown (Message.directoryNotMade "-a" Errno.exists.message ++ "\n" ++
          Message.directoryNotMade "d" Errno.noEntry.message)), u) ∧
      collected (rs.reduceOption ++ qs.reduceOption) =
        .refused .unknown (Message.directoryNotMade "-a" Errno.exists.message ++ "\n" ++
          Message.directoryNotMade "d" Errno.noEntry.message) ∧
      outcome (runBuiltin .rm ["-r", "a", "b"]) first =
        outcome (andThen (runBuiltin .rm ["-r", "a"]) (runBuiltin .rm ["-r", "b"])) first ∧
      outcome (runBuiltin .mkdir ["-x", "a", "b"]) first =
        (.ok (.refused .invalidOperator (Message.invalidOperator "x")), first) := by
  intro dashed
  obtain ⟨first, hfirst⟩ : ∃ first, build 0 .usual builtins = .ok first := ⟨_, rfl⟩
  obtain ⟨hflags, hdecompose⟩ := commands_decompose
  have habs : Path.isAbsolute first.directory = true := by
    obtain rfl := Except.ok.inj hfirst
    rfl
  have hopen : first.volume.released = false := by
    obtain rfl := Except.ok.inj hfirst
    rfl
  obtain ⟨-, -, -, hmade, -⟩ := hdecompose first ["-a"] ["/-a", "c/d"] (by simp) (by simp)
  obtain ⟨rs, qs, t, u, hxs, hys, -, -, hall, -⟩ := hmade [] dashed hopen habs
    fun chosen _ _ => rfl
  obtain ⟨-, hremoved, -, -, hrefused⟩ := hdecompose first ["a"] ["b"] (by simp) (by simp)
  obtain ⟨letters, hread⟩ := hflags ['r', 'R', 'f'] ["-r"]
    fun f hf => ⟨['r'], by rw [List.mem_singleton.mp hf]; rfl, by decide⟩
  have hsaid : (outcome (runBuiltin .mkdir ["--", "-a", "/-a", "c/d"]) first).1 =
      .ok (.refused .unknown (Message.directoryNotMade "-a" Errno.exists.message ++ "\n" ++
        Message.directoryNotMade "d" Errno.noEntry.message)) := by
    obtain rfl := Except.ok.inj hfirst
    rfl
  have hcollected := (congrArg Prod.fst hall).symm.trans hsaid
  refine ⟨first, rs, qs, t, u, hfirst, hxs, hys, ?_, Except.ok.inj hcollected, ?_, ?_⟩
  · exact hall.trans (Prod.ext hcollected rfl)
  · exact hremoved letters _ ((hread ["a", "b"]).1 (by decide))
  · exact hrefused 'x' (fun chosen => "-x" :: chosen) (fun chosen _ _ => rfl) ["a", "b"]
      (by simp) (by simp)

end Commands

end MemoryShell
