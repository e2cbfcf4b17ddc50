import Mathlib.Logic.Function.Basic
import MemoryShell.Proofs.Session.Store
import MemoryShell.Proofs.Shell.Diversion
import MemoryShell.Proofs.Shell.Restoring

/-!
What a store keeps of shells. Any number of shells share one store; lines are executed in them, they
are saved, restored and closed, and sessions are loaded and reset, in any order and at any times. The
store has for each session what the last save of it gave that came about and that no reset followed,
and a shell that is restored to it has the content that the saved shell had at that time, if the names
in it are ones that a snapshot gives back.
-/

set_option autoImplicit false

namespace MemoryShell.Session

/-- A store and the shells that share it. -/
structure World (ι : Type) where
  store : Store
  shells : ι → Shell

/-- Every shell of a world was built, and anything has happened to it. -/
def World.Founded {ι : Type} (w : World ι) : Prop :=
  ∀ i, ∃ start settings commands first past,
    Shell.build start settings commands = .ok first ∧ Shell.after first past = w.shells i

theorem World.Founded.upright {ι : Type} {w : World ι} (h : w.Founded) (i : ι) : (w.shells i).Upright := by
  obtain ⟨start, settings, commands, first, past, hfirst, hpast⟩ := h i
  rw [← hpast]
  exact { Shell.upright_after hfirst past start with }

/-- What is done in a world. -/
inductive Deed (ι : Type)
  | executed (i : ι) (line : Json)
  | saved (session : Text) (i : ι)
  | loaded (session : Text)
  | restored (session : Text) (i : ι)
  | reset (session : Text)
  | closed (i : ι)

/-- What is answered to that. -/
inductive Answer
  | line (r : Except Failure Json)
  | saving (r : Except Failure String)
  | loading (found : Option String)
  | restoring (r : Except Failure Bool)
  | nothing

variable {ι : Type} [DecidableEq ι]

def Deed.run (now : Int) : Deed ι → World ι → Answer × World ι
  | .executed i line, w =>
    let done := outcome (Shell.execute line) { w.shells i with clock := now }
    (.line done.1, { w with shells := Function.update w.shells i done.2 })
  | .saved session i, w =>
    let done := (Store.save session (w.shells i)).run w.store
    (.saving done.1, { w with store := done.2 })
  | .loaded session, w =>
    let done := (Store.load session).run w.store
    (.loading done.1, { w with store := done.2 })
  | .restored session i, w =>
    let done := (Store.restoreInto session { w.shells i with clock := now }).run w.store
    (.restoring done.1.1, ⟨done.2, Function.update w.shells i done.1.2⟩)
  | .reset session, w => (.nothing, { w with store := ((Store.reset session).run w.store).2 })
  | .closed i, w =>
    let done := outcome Shell.close { w.shells i with clock := now }
    (.nothing, { w with shells := Function.update w.shells i done.2 })

def Deed.Writes (session : Text) : Deed ι → Prop
  | .saved other _ | .reset other => other = session
  | .executed _ _ | .loaded _ | .restored _ _ | .closed _ => False

def Deed.Changes (i : ι) : Deed ι → Prop
  | .executed j _ | .restored _ j | .closed j => j = i
  | .saved _ _ | .loaded _ | .reset _ => False

/-- Something that is done at some time, in the world as it is then. -/
structure Moment (ι : Type) where
  now : Int
  deed : Deed ι
  world : World ι

namespace Moment

def answer (m : Moment ι) : Answer :=
  (m.deed.run m.now m.world).1

def next (m : Moment ι) : World ι :=
  (m.deed.run m.now m.world).2

/-- A shell is saved for a session, which comes about with a text. -/
def Saves (m : Moment ι) (session : Text) (text : String) (shell : Shell) : Prop :=
  ∃ i, m.deed = .saved session i ∧ m.answer = .saving (.ok text) ∧ m.world.shells i = shell

/-- A save of a session comes about, or the session is reset. -/
def Settles (m : Moment ι) (session : Text) : Prop :=
  (∃ text shell, m.Saves session text shell) ∨ m.deed = .reset session

end Moment

def moments : World ι → List (Int × Deed ι) → List (Moment ι)
  | _, [] => []
  | w, (now, deed) :: rest =>
    let m : Moment ι := ⟨now, deed, w⟩
    m :: moments m.next rest

def World.after (w : World ι) (history : List (Int × Deed ι)) : World ι :=
  history.foldl (fun w deed => (deed.2.run deed.1 w).2) w

/-- The last save of a session that came about gave a text for a shell, and no reset followed it. -/
def LastSave (past : List (Moment ι)) (session : Text) (text : String)
    (shell : Shell) : Prop :=
  ∃ earlier m later, past = earlier ++ m :: later ∧ m.Saves session text shell ∧
    ∀ n ∈ later, ¬ n.Settles session

section

variable {w : World ι} {session : Text} {text : String} {shell : Shell}

theorem Moment.Saves.write {m : Moment ι} (h : m.Saves session text shell) :
    Snapshot.write shell.volume = .ok text := by
  obtain ⟨i, hdeed, hanswer, rfl⟩ := h
  rw [Moment.answer, hdeed, Deed.run] at hanswer
  cases hwrite : Snapshot.write (m.world.shells i).volume with
  | error e =>
    rw [Store.run_save_of_error hwrite] at hanswer
    cases hanswer
  | ok written =>
    rw [Store.run_save_of_ok hwrite] at hanswer
    cases hanswer
    rfl

theorem Moment.Saves.text? {m : Moment ι} (h : m.Saves session text shell) :
    m.next.store.text? session = some text := by
  have hwrite := h.write
  obtain ⟨i, hdeed, -, rfl⟩ := h
  rw [Moment.next, hdeed, Deed.run, Store.run_save_of_ok hwrite]
  exact OrderedMap.find?_insert_self _ _ _

theorem Moment.text?_of_reset {m : Moment ι} (h : m.deed = .reset session) :
    m.next.store.text? session = none := by
  rw [Moment.next, h]
  exact OrderedMap.find?_erase_self _ _

theorem text?_of_not_writes {deed : Deed ι} (h : ¬ deed.Writes session) (now : Int)
    (w : World ι) : (deed.run now w).2.store.text? session = w.store.text? session := by
  have hkey : ∀ {other}, other ≠ session → key other ≠ key session :=
    fun hne heq => hne (key_injective heq)
  cases deed with
  | executed i line => rfl
  | closed i => rfl
  | loaded other =>
    rw [Deed.run, Store.run_load]
    rfl
  | restored other i =>
    rw [Deed.run, Shell.run_restoreInto]
    rfl
  | reset other => exact OrderedMap.find?_erase_of_ne _ (hkey h)
  | saved other i =>
    rw [Deed.run]
    cases hwrite : Snapshot.write (w.shells i).volume with
    | error e =>
      rw [Store.run_save_of_error hwrite]
    | ok text =>
      rw [Store.run_save_of_ok hwrite]
      exact OrderedMap.find?_insert_of_ne _ _ (hkey h)

theorem text?_of_not_settles {m : Moment ι} (h : ¬ m.Settles session) :
    m.next.store.text? session = m.world.store.text? session := by
  by_cases hwrites : m.deed.Writes session
  · obtain ⟨now, deed, w⟩ := m
    cases deed with
    | saved other i =>
      obtain rfl : other = session := hwrites
      cases hwrite : Snapshot.write (w.shells i).volume with
      | error e =>
        rw [Moment.next, Deed.run, Store.run_save_of_error hwrite]
      | ok text =>
        refine absurd (.inl ⟨text, w.shells i, i, rfl, ?_, rfl⟩) h
        rw [Moment.answer, Deed.run, Store.run_save_of_ok hwrite]
    | reset other =>
      obtain rfl : other = session := hwrites
      exact absurd (.inr rfl) h
    | executed i line => cases hwrites
    | loaded other => cases hwrites
    | restored other i => cases hwrites
    | closed i => cases hwrites
  · exact text?_of_not_writes hwrites m.now m.world

theorem moments_append_singleton (w : World ι) (history : List (Int × Deed ι)) (now : Int)
    (deed : Deed ι) :
    moments w (history ++ [(now, deed)]) = moments w history ++ [⟨now, deed, w.after history⟩] := by
  induction history generalizing w with
  | nil => rfl
  | cons first rest ih =>
    obtain ⟨now', deed'⟩ := first
    simp only [List.cons_append, moments, ih]
    rfl

theorem after_append_singleton (w : World ι) (history : List (Int × Deed ι)) (now : Int)
    (deed : Deed ι) :
    w.after (history ++ [(now, deed)]) = (deed.run now (w.after history)).2 := by
  rw [World.after, List.foldl_append]
  rfl

theorem lastSave_append_singleton {past : List (Moment ι)} {m : Moment ι} :
    LastSave (past ++ [m]) session text shell ↔
      m.Saves session text shell ∨ ¬ m.Settles session ∧ LastSave past session text shell := by
  constructor
  · rintro ⟨earlier, n, later, hsplit, hsaves, hlater⟩
    rcases later.eq_nil_or_concat with rfl | ⟨later', last, rfl⟩
    · obtain ⟨-, hlast⟩ := List.append_inj' hsplit rfl
      obtain rfl := List.singleton_inj.mp hlast
      exact .inl hsaves
    · rw [List.concat_eq_append, ← List.cons_append, ← List.append_assoc] at hsplit
      obtain ⟨hpast, hlast⟩ := List.append_inj' hsplit rfl
      obtain rfl := List.singleton_inj.mp hlast
      refine .inr ⟨hlater m (by simp), earlier, n, later', hpast, hsaves, fun x hx => ?_⟩
      exact hlater x (by simp [hx])
  · rintro (hsaves | ⟨hnot, earlier, n, later, rfl, hsaves, hlater⟩)
    · exact ⟨past, m, [], rfl, hsaves, fun x hx => by cases hx⟩
    · refine ⟨earlier, n, later ++ [m], by simp, hsaves, fun x hx => ?_⟩
      rcases List.mem_append.mp hx with hx | hx
      · exact hlater x hx
      · exact List.mem_singleton.mp hx ▸ hnot

theorem Moment.text?_next_iff (m : Moment ι) :
    m.next.store.text? session = some text ↔
      (∃ shell, m.Saves session text shell) ∨
        ¬ m.Settles session ∧ m.world.store.text? session = some text := by
  by_cases hsettles : m.Settles session
  · simp only [hsettles, not_true_eq_false, false_and, or_false]
    rcases hsettles with ⟨saved, shell, hsaves⟩ | hreset
    · rw [hsaves.text?]
      constructor
      · intro h
        exact ⟨shell, Option.some.inj h ▸ hsaves⟩
      · rintro ⟨other, hother⟩
        rw [← hsaves.text?, hother.text?]
    · rw [Moment.text?_of_reset hreset]
      constructor
      · intro h
        cases h
      · rintro ⟨other, i, hdeed, -⟩
        rw [hreset] at hdeed
        cases hdeed
  · rw [text?_of_not_settles hsettles]
    constructor
    · exact fun h => .inr ⟨hsettles, h⟩
    · rintro (⟨shell, hsaves⟩ | ⟨-, h⟩)
      · exact absurd (.inl ⟨text, shell, hsaves⟩) hsettles
      · exact h

theorem text?_after_iff (hempty : w.store.entries = []) (history : List (Int × Deed ι))
    (session : Text) (text : String) :
    (w.after history).store.text? session = some text ↔
      ∃ shell, LastSave (moments w history) session text shell := by
  induction history using List.reverseRecOn generalizing text with
  | nil =>
    have hnone : (w.after []).store.text? session = none := by
      show OrderedMap.find? w.store.entries (key session) = none
      rw [hempty]
      rfl
    rw [hnone]
    constructor
    · intro h
      cases h
    · rintro ⟨shell, earlier, m, later, hsplit, -⟩
      cases earlier <;> cases hsplit
  | append_singleton history last ih =>
    obtain ⟨now, deed⟩ := last
    let m : Moment ι := ⟨now, deed, w.after history⟩
    have hnext : m.next.store.text? session = some text ↔ _ := m.text?_next_iff
    rw [ih] at hnext
    rw [moments_append_singleton, after_append_singleton]
    simp only [lastSave_append_singleton, exists_or, exists_and_left]
    exact hnext

theorem apply_executed (now : Int) (line : Json) (s : Shell) :
    Shell.Event.apply now (.executed line) s =
      (outcome (Shell.execute line) { s with clock := now }).2 := by
  rw [Shell.Event.apply, Shell.Event.act, outcome_bind]
  cases outcome (Shell.execute line) { s with clock := now } with
  | mk r t => cases r <;> rfl

theorem apply_restored (now : Int) (snapshot : Json) (s : Shell) :
    Shell.Event.apply now (.restored snapshot) s =
      (outcome (Shell.restore snapshot) { s with clock := now }).2 := by
  rw [Shell.Event.apply, Shell.Event.act, outcome_bind]
  cases outcome (Shell.restore snapshot) { s with clock := now } with
  | mk r t => cases r <;> rfl

theorem upright_run (h : ∀ i, (w.shells i).Upright) (now : Int) (deed : Deed ι) (i : ι) :
    ((deed.run now w).2.shells i).Upright := by
  have hupdate : ∀ j (s : Shell), s.Upright → (Function.update w.shells j s i).Upright := by
    intro j s hs
    by_cases hij : i = j
    · rw [hij, Function.update_self]
      exact hs
    · rw [Function.update_of_ne hij]
      exact h i
  cases deed with
  | executed j line =>
    rw [Deed.run, ← apply_executed]
    exact hupdate j _ ((h j).apply now (.executed line))
  | closed j => exact hupdate j _ ((h j).apply now .closed)
  | saved session j => exact h i
  | loaded session => exact h i
  | reset session => exact h i
  | restored session j =>
    rw [Deed.run, Shell.run_restoreInto]
    refine hupdate j _ ?_
    cases OrderedMap.find? w.store.entries (key session) with
    | none => exact { h j with }
    | some text =>
      rw [← apply_restored]
      exact (h j).apply now (.restored (.ofString text))

theorem upright_of_mem_moments {history : List (Int × Deed ι)} {m : Moment ι}
    (h : ∀ i, (w.shells i).Upright) (hm : m ∈ moments w history) (i : ι) :
    (m.world.shells i).Upright := by
  induction history generalizing w with
  | nil => cases hm
  | cons first rest ih =>
    obtain ⟨now, deed⟩ := first
    rcases List.mem_cons.mp hm with rfl | hm
    · exact h i
    · exact ih (upright_run h now deed) hm

theorem LastSave.upright {history : List (Int × Deed ι)} (h : ∀ i, (w.shells i).Upright)
    (hlast : LastSave (moments w history) session text shell) : shell.Upright := by
  obtain ⟨earlier, m, later, hsplit, ⟨i, -, -, rfl⟩, -⟩ := hlast
  have hm : m ∈ moments w history := by
    rw [hsplit]
    exact List.mem_append_right _ List.mem_cons_self
  exact upright_of_mem_moments h hm i

theorem answer_loaded (session : Text) (now : Int) (w : World ι) :
    ((Deed.loaded session).run now w).1 = .loading (w.store.text? session) := by
  rw [Deed.run, Store.run_load]

theorem run_restored_of_none (h : w.store.text? session = none) (now : Int) (i : ι) :
    ((Deed.restored session i).run now w).1 = .restoring (.ok false) ∧
      ((Deed.restored session i).run now w).2.shells i = { w.shells i with clock := now } := by
  rw [Store.text?] at h
  simp only [Deed.run, Shell.run_restoreInto, h, Function.update_self, and_self]

theorem run_restored_of_read {v : Volume} {now : Int} (h : w.store.text? session = some text)
    (hread : Snapshot.read now text = .ok v) (i : ι) :
    ((Deed.restored session i).run now w).1 = .restoring (.ok true) ∧
      ((Deed.restored session i).run now w).2.shells i =
        { w.shells i with clock := now, volume := v } := by
  have hload : Shell.loadVolume now (.ofString text) = .ok v :=
    Shell.loadVolume_eq_ok_iff.mpr ⟨_, rfl, hread⟩
  have hrun := Shell.outcome_restore_of_describes (s := { w.shells i with clock := now })
    (Shell.describes_iff.mpr hload)
  rw [Store.text?] at h
  simp only [Deed.run, Shell.run_restoreInto, h, hrun, Function.update_self]
  exact ⟨rfl, trivial⟩

theorem run_restored_iff {s : Shell} (hs : s.Upright)
    (hwrite : Snapshot.write s.volume = .ok text) (h : w.store.text? session = some text)
    (now : Int) (i : ι) :
    (((Deed.restored session i).run now w).1 = .restoring (.ok true) ∧
        ∃ v, ((Deed.restored session i).run now w).2.shells i =
            { w.shells i with clock := now, volume := v } ∧
          v.released = false ∧ v.root.SameContent s.volume.root) ↔
      s.volume.root.Everywhere (Node.NamesIn Snapshot.Spellable) := by
  obtain ⟨-, -, rfl⟩ := Snapshot.writeWithin_eq_ok_iff.mp hwrite
  rw [← Volume.exists_read_sameContent_iff hs.formed now]
  constructor
  · rw [Store.text?] at h
    simp only [Deed.run, Shell.run_restoreInto, h, Function.update_self]
    rintro ⟨hanswer, v, hshell, -, hsame⟩
    rcases Shell.restore_cases { w.shells i with clock := now } (.ofString _) with
      ⟨x, hx, hrun⟩ | ⟨-, f, hrun⟩
    · rw [hrun] at hshell
      obtain rfl : x = v := congrArg Shell.volume hshell
      obtain ⟨t, ht, hread⟩ := Shell.loadVolume_eq_ok_iff.mp (Shell.describes_iff.mp hx)
      obtain rfl := Json.string.inj ht
      exact ⟨x, hread, hsame⟩
    · rw [hrun] at hanswer
      cases hanswer
  · rintro ⟨v, hread, hsame⟩
    obtain ⟨hanswer, hshell⟩ := run_restored_of_read h hread i
    exact ⟨hanswer, v, hshell, (Volume.wellFormed_of_read hread).2, hsame⟩

theorem shells_of_not_changes {deed : Deed ι} {i : ι} (h : ¬ deed.Changes i) (now : Int)
    (w : World ι) : (deed.run now w).2.shells i = w.shells i := by
  cases deed with
  | saved session j => rfl
  | loaded session => rfl
  | reset session => rfl
  | executed j line => exact Function.update_of_ne (Ne.symm h) _ _
  | restored session j => exact Function.update_of_ne (Ne.symm h) _ _
  | closed j => exact Function.update_of_ne (Ne.symm h) _ _

theorem save_cases (session : Text) (i : ι) (now : Int) (w : World ι) :
    ((∃ text, ((Deed.saved session i).run now w).1 = .saving (.ok text)) ↔
      (w.shells i).volume.released = false ∧
        (w.shells i).volume.root.height ≤ Snapshot.levelLimit) ∧
    ∀ f, ((Deed.saved session i).run now w).1 = .saving (.error f) →
      ((Deed.saved session i).run now w).2 = w := by
  cases hwrite : Snapshot.write (w.shells i).volume with
  | ok text =>
    obtain ⟨hopen, hlevels, -⟩ := Snapshot.writeWithin_eq_ok_iff.mp hwrite
    rw [Deed.run, Store.run_save_of_ok hwrite]
    exact ⟨iff_of_true ⟨text, rfl⟩ ⟨hopen, hlevels⟩, fun f hf => by cases hf⟩
  | error e =>
    rw [Deed.run, Store.run_save_of_error hwrite]
    refine ⟨iff_of_false (fun ⟨_, h⟩ => by cases h) fun ⟨hopen, hlevels⟩ => ?_, fun _ _ => rfl⟩
    obtain ⟨text, htext⟩ := (Snapshot.exists_write_iff hopen).mpr hlevels
    rw [hwrite] at htext
    cases htext

end

/-- A store keeps the last saves. Whatever has been done with any number of shells and sessions: if a
save of a session came about and neither another one nor a reset of it followed, loading the session
gives the text of that save, and any shell is restored to the content that the saved shell had then,
exactly if no name in that has a high surrogate directly before a low one; otherwise loading gives
nothing and restoring does nothing. No session touches what is stored for another and nothing that is
done to a shell changes another one. A save comes about exactly if the shell is not closed and has no
more levels than a walk has room for, and one that does not leaves the whole world as it was. -/
theorem store_keeps_last_saves {w : World ι} (hempty : w.store.entries = []) (hshells : w.Founded)
    (history : List (Int × Deed ι)) {here : World ι} (hhere : w.after history = here) :
    (∀ session text shell, LastSave (moments w history) session text shell →
      (∀ now, ((Deed.loaded session).run now here).1 = .loading (some text)) ∧
      ∀ now i,
        (((Deed.restored session i).run now here).1 = .restoring (.ok true) ∧
          ∃ v, ((Deed.restored session i).run now here).2.shells i =
              { here.shells i with clock := now, volume := v } ∧
            v.released = false ∧ v.root.SameContent shell.volume.root) ↔
        shell.volume.root.Everywhere (Node.NamesIn Snapshot.Spellable)) ∧
    (∀ session, (∀ text shell, ¬ LastSave (moments w history) session text shell) →
      (∀ now, ((Deed.loaded session).run now here).1 = .loading none) ∧
      ∀ now i, ((Deed.restored session i).run now here).1 = .restoring (.ok false) ∧
        ((Deed.restored session i).run now here).2.shells i =
          { here.shells i with clock := now }) ∧
    (Function.Injective key ∧ ∀ now (deed : Deed ι) session, ¬ deed.Writes session →
      (deed.run now here).2.store.text? session = here.store.text? session) ∧
    (∀ now (deed : Deed ι) i, ¬ deed.Changes i →
      (deed.run now here).2.shells i = here.shells i) ∧
    ∀ now session i,
      ((∃ text, ((Deed.saved session i).run now here).1 = .saving (.ok text)) ↔
        (here.shells i).volume.released = false ∧
          (here.shells i).volume.root.height ≤ Snapshot.levelLimit) ∧
      ∀ f, ((Deed.saved session i).run now here).1 = .saving (.error f) →
        ((Deed.saved session i).run now here).2 = here := by
  have hstored := text?_after_iff hempty history
  rw [hhere] at hstored
  refine ⟨fun session text shell hlast => ?_, fun session hnone => ?_,
    ⟨key_injective, fun now deed session h => text?_of_not_writes h now here⟩,
    fun now deed i h => shells_of_not_changes h now here,
    fun now session i => save_cases session i now here⟩
  · have htext : here.store.text? session = some text := (hstored session text).mpr ⟨shell, hlast⟩
    have hshell : shell.Upright := hlast.upright hshells.upright
    obtain ⟨-, m, -, -, hsaves, -⟩ := id hlast
    refine ⟨fun now => ?_, run_restored_iff hshell hsaves.write htext⟩
    rw [answer_loaded, htext]
  · have htext : here.store.text? session = none := by
      cases hfound : here.store.text? session with
      | none => rfl
      | some text =>
        obtain ⟨shell, hlast⟩ := (hstored session text).mp hfound
        exact absurd hlast (hnone text shell)
    refine ⟨fun now => ?_, run_restored_of_none htext⟩
    rw [answer_loaded, htext]

/-- A directory whose name is the two halves of a character is saved; a shell that is restored to that
has no such directory, for the halves come back as the character. -/
theorem store_joins_halves :
    let halves : Text := [0xD83D, 0xDE00]
    let history : List (Int × Deed Bool) :=
      [(1, .executed false (.string ("mkdir " ++ halves))), (2, .saved "s" false)]
    ∃ first text shell, Shell.build 0 .usual Shell.builtins = .ok first ∧
      let w : World Bool := ⟨Store.empty true, fun _ => first⟩
      LastSave (moments w history) "s" text shell ∧
      ((Deed.restored "s" true).run 3 (w.after history)).1 = .restoring (.ok true) ∧
      ¬ (((Deed.restored "s" true).run 3 (w.after history)).2.shells true).volume.root.SameContent
        shell.volume.root := by
  intro halves history
  let text := "\x7b\"/\\ud83d\\ude00\": null\x7d"
  obtain ⟨first, hfirst, hwrite, hhalves⟩ :
      ∃ first, Shell.build 0 .usual Shell.builtins = .ok first ∧
        let s := (outcome (Shell.execute (.string ("mkdir " ++ halves))) { first with clock := 1 }).2
        Snapshot.write s.volume = .ok text ∧
        (s.volume.root.content [⟨halves, by decide⟩]).isSome = true :=
    ⟨_, rfl, by decide +kernel, by decide +kernel⟩
  let w : World Bool := ⟨Store.empty true, fun _ => first⟩
  let m : Moment Bool := ⟨2, .saved "s" false, w.after (history.take 1)⟩
  have hwritten : Snapshot.write (m.world.shells false).volume = .ok text := hwrite
  have hsaves : m.Saves "s" text (m.world.shells false) := by
    refine ⟨false, rfl, ?_, rfl⟩
    show Answer.saving ((Store.save "s" (m.world.shells false)).run m.world.store).1 = _
    rw [Store.run_save_of_ok hwritten]
  have hstored : (w.after history).store.text? "s" = some text := hsaves.text?
  have hupright : (m.world.shells false).Upright :=
    upright_run (World.Founded.upright fun _ => ⟨0, _, _, first, [], hfirst, rfl⟩) 1 _ false
  -- what was written is read, but as something else
  obtain ⟨v, hread⟩ : ∃ v, Snapshot.read 3 text = .ok v := by
    have hok : (Snapshot.read 3 text).isOk = true := by decide +kernel
    cases hread : Snapshot.read 3 text with
    | ok v => exact ⟨v, rfl⟩
    | error e =>
      rw [hread] at hok
      cases hok
  obtain ⟨hanswer, hshell⟩ := run_restored_of_read hstored hread true
  refine ⟨first, text, m.world.shells false, hfirst,
    ⟨(moments w history).take 1, m, [], rfl, hsaves, fun n hn => by cases hn⟩, hanswer,
    fun hsame => ?_⟩
  rw [hshell] at hsame
  have hnames := (run_restored_iff hupright hwritten hstored 3 true).mp
    ⟨hanswer, v, hshell, (Volume.wellFormed_of_read hread).2, hsame⟩
  obtain ⟨shape, hshape⟩ := Option.isSome_iff_exists.mp hhalves
  obtain ⟨child, hwalk, -⟩ := Node.content_eq_some.mp hshape
  exact absurd (hnames.names hwalk _ List.mem_cons_self) (by decide)

/-- A file is written, saved and removed, and the shell is closed; another shell is restored to what
was saved. Nothing is stored for another session. -/
theorem store_keeps_last_saves_removed_file :
    let history : List (Int × Deed Bool) :=
      [(1, .executed false (.ofString "echo hi > /f")), (2, .saved "a" false),
        (3, .executed false (.ofString "rm /f")), (4, .closed false)]
    ∃ first, Shell.build 0 .usual Shell.builtins = .ok first ∧
      World.Founded (ι := Bool) ⟨Store.empty true, fun _ => first⟩ ∧
      let here := World.after ⟨Store.empty true, fun _ => first⟩ history
      ((Deed.loaded "a").run 5 here).1 = .loading (some "\x7b\"/f\": \"hi\\n\"\x7d") ∧
      ((Deed.restored "a" true).run 5 here).1 = .restoring (.ok true) ∧
      ((Deed.loaded "b").run 5 here).1 = .loading none := by
  intro history
  obtain ⟨first, hfirst, hconcrete, hnames⟩ :
      ∃ first, Shell.build 0 .usual Shell.builtins = .ok first ∧
        Snapshot.write (outcome (Shell.execute (.ofString "echo hi > /f"))
          { first with clock := 1 }).2.volume = .ok "\x7b\"/f\": \"hi\\n\"\x7d" ∧
        (outcome (Shell.execute (.ofString "echo hi > /f"))
          { first with clock := 1 }).2.volume.root.Everywhere (Node.NamesIn Snapshot.Spellable) :=
    ⟨_, rfl, by decide +kernel, Node.everywhere_of_nodes (by decide +kernel)⟩
  let w : World Bool := ⟨Store.empty true, fun _ => first⟩
  have hfounded : w.Founded := fun _ => ⟨0, _, _, first, [], hfirst, rfl⟩
  obtain ⟨hsaved, hunsaved, -⟩ := store_keeps_last_saves (w := w) rfl hfounded history rfl
  let m : Moment Bool :=
    ⟨2, .saved "a" false, w.after [(1, .executed false (.ofString "echo hi > /f"))]⟩
  have hwrite : Snapshot.write (m.world.shells false).volume =
      .ok "\x7b\"/f\": \"hi\\n\"\x7d" := hconcrete
  have hsaves : m.Saves "a" "\x7b\"/f\": \"hi\\n\"\x7d" (m.world.shells false) := by
    refine ⟨false, rfl, ?_, rfl⟩
    show Answer.saving ((Store.save "a" (m.world.shells false)).run m.world.store).1 = _
    rw [Store.run_save_of_ok hwrite]
  have hlast : LastSave (moments w history) "a" "\x7b\"/f\": \"hi\\n\"\x7d"
      (m.world.shells false) := by
    refine ⟨(moments w history).take 1, m, (moments w history).drop 2, rfl, hsaves, ?_⟩
    intro n hn
    simp only [history, moments, List.drop_succ_cons, List.drop_zero, List.mem_cons,
      List.not_mem_nil, or_false] at hn
    rcases hn with rfl | rfl <;> rintro (⟨text, shell, i, hdeed, -⟩ | hdeed) <;> cases hdeed
  have hother : ∀ text shell, ¬ LastSave (moments w history) "b" text shell := by
    rintro text shell ⟨earlier, n, later, hsplit, ⟨i, hdeed, -⟩, -⟩
    have hn : n ∈ moments w history := hsplit ▸ List.mem_append_right _ List.mem_cons_self
    simp only [history, moments, List.mem_cons, List.not_mem_nil, or_false] at hn
    rcases hn with rfl | rfl | rfl | rfl <;> cases hdeed
  obtain ⟨hload, hrestore⟩ := hsaved "a" _ _ hlast
  exact ⟨first, hfirst, hfounded, hload 5, ((hrestore 5 true).mpr hnames).1,
    (hunsaved "b" hother).1 5⟩

end MemoryShell.Session
