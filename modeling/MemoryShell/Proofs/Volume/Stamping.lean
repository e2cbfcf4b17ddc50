import MemoryShell.Proofs.Tree.Flip
import MemoryShell.Proofs.Volume.Atomic
import MemoryShell.Proofs.Volume.Success

/-!
What an operation does to kinds, modes and times. Whatever stays keeps its kind and the time it was
made at. A mode changes where one is set. The time of the last change becomes the present one at a
directory that gets or loses an entry and at a file that is written, and it is changed elsewhere only
where it is set. What an operation makes has the modes of new nodes and the present time.
-/

set_option autoImplicit false

namespace MemoryShell.Volume

namespace Operation

/-- The mode that an operation sets at a path. -/
def modeSet? : Operation → Path → Option Nat
  | .setMode s mode, p =>
    if Path.parse? s = some p then some (mode % 0o1000).toNat else none
  | _, _ => none

/-- The time that an operation sets at a path. -/
def timeSet? : Operation → Path → Option Json
  | .setTimes s mtime, p => if Path.parse? s = some p then some mtime else none
  | _, _ => none

/-- Whether an operation writes the file at a path. -/
def Writes : Operation → Path → Prop
  | .write _ s _, p | .copyFile _ s, p => Path.parse? s = some p
  | _, _ => False

/-- An operation neither sets anything at a path nor writes the file there. -/
structure Spares (op : Operation) (p : Path) : Prop where
  mode : op.modeSet? p = none
  time : op.timeSet? p = none
  data : ¬ op.Writes p

/-- What an operation makes of a node that stays, when entries come to it or go from it and when not. -/
structure Ages (op : Operation) (now : Int) (p : Path) (regrouped : Prop) (x y : Node) : Prop where
  kind : y.isDirectory = x.isDirectory
  ctime : y.stamp.ctime = x.stamp.ctime
  mode : y.stamp.mode = (op.modeSet? p).getD x.stamp.mode
  touched : x.isDirectory = true → regrouped → y.stamp.mtime = .integer now
  untouched : x.isDirectory = true → ¬ regrouped →
    y.stamp.mtime = (op.timeSet? p).getD x.stamp.mtime
  written : x.isDirectory = false → op.Writes p → y.stamp.mtime = .integer now
  unwritten : x.isDirectory = false → ¬ op.Writes p →
    y.stamp.mtime = (op.timeSet? p).getD x.stamp.mtime

end Operation

/-- What stays in a tree ages as an operation makes it age, and what is new in it is fresh. -/
structure Stamped (op : Operation) (now : Int) (x y : Node) : Prop where
  kept : ∀ p c d, x.walk p = .ok c → y.walk p = .ok d →
    op.Ages now p (Node.Regrouped x y p) c d
  made : ∀ p e d, x.walk p = .error e → y.walk p = .ok d → d.IsFresh now

variable {op : Operation} {now : Int} {p : Path} {name : Name} {x y c d : Node} {v w : Volume}

theorem ages_of_mapStamp {g : Stamp → Stamp} (hbare : d.bare = c.bare.mapStamp g)
    (hctime : (g c.stamp).ctime = c.stamp.ctime)
    (hmode : (g c.stamp).mode = (op.modeSet? p).getD c.stamp.mode)
    (htime : (g c.stamp).mtime = (op.timeSet? p).getD c.stamp.mtime) (hdata : ¬ op.Writes p)
    {regrouped : Prop} (hr : ¬ regrouped) : op.Ages now p regrouped c d := by
  have hkind : d.isDirectory = c.isDirectory := by
    rw [← Node.isDirectory_bare, hbare]
    cases c <;> rfl
  have hstamp : d.stamp = g c.stamp := by
    rw [← Node.stamp_bare, hbare]
    cases c <;> rfl
  rw [← hstamp] at hctime hmode htime
  exact ⟨hkind, hctime, hmode, fun _ hyes => absurd hyes hr, fun _ _ => htime,
    fun _ hyes => absurd hyes hdata, fun _ _ => htime⟩

namespace Operation.Spares

variable (h : op.Spares p)

include h

theorem ages (hbare : d.bare = c.bare) {regrouped : Prop} (hr : ¬ regrouped) :
    op.Ages now p regrouped c d := by
  have hid : d.bare = c.bare.mapStamp id := by
    rw [hbare]
    cases c <;> rfl
  refine ages_of_mapStamp hid rfl ?_ ?_ h.data hr
  · rw [h.mode, Option.getD_none, id]
  · rw [h.time, Option.getD_none, id]

theorem ages_touch (hdirectory : c.isDirectory = true) (hbare : d.bare = c.bare.touch now)
    {regrouped : Prop} (hr : regrouped) : op.Ages now p regrouped c d := by
  have hkind : d.isDirectory = c.isDirectory := by
    rw [← Node.isDirectory_bare, hbare, Node.isDirectory_touch, Node.isDirectory_bare]
  have hstamp : d.stamp = { c.stamp with mtime := .integer now } := by
    rw [← Node.stamp_bare, hbare, Node.stamp_touch, Node.stamp_bare]
  have hfile : c.isDirectory ≠ false := by simp [hdirectory]
  refine ⟨hkind, by rw [hstamp], ?_, fun _ _ => by rw [hstamp], fun _ hnot => absurd hr hnot,
    fun hno => absurd hno hfile, fun hno => absurd hno hfile⟩
  rw [hstamp, h.mode, Option.getD_none]

end Operation.Spares

namespace Stamped

theorem refl (h : ∀ p, op.Spares p) (x : Node) : Stamped op now x x where
  kept p c d hc hd := by
    obtain rfl := Except.ok.inj (hc.symm.trans hd)
    exact (h p).ages rfl fun ⟨_, hn⟩ => hn rfl
  made p e d he hd := by
    rw [he] at hd
    cases hd

theorem of_looks (hspares : ∀ p, op.Spares p) {α : Type} {program : VolumeM α}
    (hlooks : Looks program) {a : α} (h : outcome program v = (.ok a, w)) :
    Stamped op now v.root w.root := by
  have hsame : w = v := by rw [← hlooks v, h]
  rw [hsame]
  exact .refl hspares v.root

theorem of_flipped (hflip : Node.Flipped now p name x y)
    (h : ∀ q, q ≠ p ++ [name] → op.Spares q) : Stamped op now x y where
  kept q c d hc hd := by
    have hbelow := hflip.not_below (Node.isSome_at?_of_walk hc) (Node.isSome_at?_of_walk hd)
    have hspares := h q fun heq => hbelow (heq ▸ List.prefix_refl q)
    have hbare := hflip.beside q hbelow
    rw [Node.bareAt_of_walk hc, Node.bareAt_of_walk hd] at hbare
    have hregrouped := hflip.regrouped_iff hbelow
    by_cases hq : q = p
    · rw [if_pos hq, Option.map_some] at hbare
      obtain ⟨s, es, hdirectory⟩ := hflip.directory
      rw [hq, hdirectory] at hc
      have hkind : c.isDirectory = true := by
        rw [← Except.ok.inj hc]
        rfl
      exact hspares.ages_touch hkind (Option.some.inj hbare) (hregrouped.mpr hq)
    · rw [if_neg hq] at hbare
      exact hspares.ages (Option.some.inj hbare) fun hyes => hq (hregrouped.mp hyes)
  made q e d he hd := by
    refine hflip.fresh_of_new ?_ hd
    rw [Node.at?, he]
    rfl

theorem of_changed {f : Node → Node}
    (hbare : ∀ q, y.bareAt q = if q = p then (x.bareAt q).map f else x.bareAt q)
    (h : ∀ q, q ≠ p → op.Spares q)
    (hages : ∀ c d, x.walk p = .ok c → d.bare = f c.bare → op.Ages now p False c d) :
    Stamped op now x y := by
  have hsame : ∀ q, (y.at? q).isSome = (x.at? q).isSome := by
    intro q
    rw [← Node.isSome_bareAt, ← Node.isSome_bareAt, hbare]
    split
    · exact Option.isSome_map
    · rfl
  have hregrouped : ∀ q, Node.Regrouped x y q = False := fun q =>
    eq_false fun ⟨n, hn⟩ => hn (hsame (q ++ [n]))
  refine ⟨fun q c d hc hd => ?_, fun q e d he hd => ?_⟩
  · have hq := hbare q
    rw [Node.bareAt_of_walk hc, Node.bareAt_of_walk hd] at hq
    rw [hregrouped]
    by_cases heq : q = p
    · rw [if_pos heq, Option.map_some] at hq
      subst heq
      exact hages c d hc (Option.some.inj hq)
    · rw [if_neg heq] at hq
      exact (h q heq).ages (Option.some.inj hq) not_false
  · have hnone := hsame q
    rw [Node.isSome_at?_of_walk hd, Node.at?, he] at hnone
    cases hnone

end Stamped

section

variable {spelling : Text}

theorem makeDirectory_flipped (h : outcome (makeDirectory now spelling) v = (.ok (), w)) :
    ∃ p name, Node.Flipped now p name v.root w.root := by
  obtain ⟨slot, hslot, hfree, -, rfl⟩ := makeDirectory_ok h
  exact ⟨_, _, Node.flipped_insert (walk_of_slot hslot) hfree (Node.isFresh_newDirectory now)
    fun n r c hc => by cases hc⟩

theorem makeBelow_flipped (rest above : Path) {s : Stamp} {es : Entries}
    (hw : v.root.walk above = .ok (.directory s es))
    (h : outcome (makeBelow now spelling above rest) v = (.ok (), w)) :
    w = v ∨ ∃ p name, above <+: p ∧ Node.Flipped now p name v.root w.root := by
  induction rest generalizing above v s es with
  | nil => exact .inl (Prod.mk.inj h).2.symm
  | cons name rest ih =>
    rw [outcome_makeBelow_cons] at h
    cases hat : v.root.at? (above ++ [name]) with
    | none =>
      rw [hat] at h
      have hfree : Entries.find? es name = none := (Node.at?_name hw name).symm.trans hat
      have hfirst : Node.Flipped now above name v.root
          (v.placed now above name (.newDirectory now)).root :=
        Node.flipped_insert hw hfree (Node.isFresh_newDirectory now) fun n r c hc => by cases hc
      have hmade : (v.placed now above name (.newDirectory now)).root.walk (above ++ [name]) =
          .ok (.newDirectory now) := Node.walk_insert hw name _ now []
      rcases ih (above ++ [name]) hmade h with rfl | ⟨p, other, hp, hlater⟩
      · exact .inr ⟨above, name, List.prefix_refl above, hfirst⟩
      · exact .inr ⟨above, name, List.prefix_refl above, hfirst.trans hlater hp⟩
    | some node =>
      cases node with
      | file t data =>
        rw [hat] at h
        cases h
      | directory t fs =>
        rw [hat] at h
        rcases ih (above ++ [name]) (Node.at?_eq_some.mp hat) h with rfl | ⟨p, other, hp, hlater⟩
        · exact .inl rfl
        · exact .inr ⟨p, other, (List.prefix_append above [name]).trans hp, hlater⟩

theorem makeDirectories_flipped (hroot : v.root.isDirectory = true)
    (h : outcome (makeDirectories now spelling) v = (.ok (), w)) :
    w = v ∨ ∃ p name, Node.Flipped now p name v.root w.root := by
  rw [outcome_makeDirectories] at h
  split at h
  · cases h
  · split at h
    · cases h
    · rename_i p _
      cases hr : v.root with
      | file s data =>
        rw [hr] at hroot
        cases hroot
      | directory s es =>
        have hw : v.root.walk [] = .ok (.directory s es) := by rw [hr, Node.walk_nil]
        rw [← hr]
        exact (makeBelow_flipped p [] hw h).imp_right
          fun ⟨q, name, _, hflip⟩ => ⟨q, name, hflip⟩

theorem remove_flipped {recursive force : Bool}
    (h : outcome (remove now spelling recursive force) v = (.ok (), w)) :
    w = v ∨ ∃ p name, Node.Flipped now p name v.root w.root := by
  rcases remove_ok h with ⟨-, rfl⟩ | ⟨slot, node, hslot, hnode, rfl⟩
  · exact .inl rfl
  · exact .inr ⟨_, _, Node.flipped_erase (walk_of_slot hslot) hnode⟩

theorem stamped_writeFile (hmode : ∀ p, op.modeSet? p = none) (htime : ∀ p, op.timeSet? p = none)
    (hdata : ∀ p, op.Writes p ↔ Path.parse? spelling = some p) {mode : WriteMode} {data : Bytes}
    (h : outcome (writeFile now mode spelling data) v = (.ok (), w)) :
    Stamped op now v.root w.root := by
  obtain ⟨slot, hslot, hcases⟩ := writeFile_ok h
  obtain ⟨-, hparse, hwalk⟩ := found_of_slot hslot
  have hspares : ∀ q, q ≠ slot.path → op.Spares q := fun q hne =>
    ⟨hmode q, htime q, fun hq => hne (Option.some.inj (((hdata q).mp hq).symm.trans hparse))⟩
  rcases hcases with ⟨hfree, -, rfl⟩ | ⟨s, old, hfile, -, rfl⟩
  · have hflip : Node.Flipped now slot.directory slot.name v.root
        (v.placed now slot.directory slot.name (.newFile now data)).root :=
      Node.flipped_insert hwalk hfree (Node.isFresh_newFile now data) fun n r c hc => by cases hc
    exact .of_flipped hflip hspares
  · refine .of_changed (fun q => Node.bareAt_setData _ now slot.path q v.root) hspares
      fun c d hc hd => ?_
    have hthere := Node.at?_eq_some.mp ((at?_of_slot hslot).trans hfile)
    obtain rfl := Except.ok.inj (hthere.symm.trans hc)
    -- the file keeps everything but its data and the time of its last change
    have hkind : d.isDirectory = false := by
      rw [← Node.isDirectory_bare, hd]
      rfl
    have hstamp : d.stamp = { s with mtime := .integer now } := by
      rw [← Node.stamp_bare, hd]
      rfl
    have hfile : (Node.file s old).isDirectory ≠ true := Bool.false_ne_true
    refine ⟨hkind, by rw [hstamp]; rfl, ?_, fun hno => absurd hno hfile,
      fun hno => absurd hno hfile, fun _ _ => by rw [hstamp],
      fun _ hnot => absurd ((hdata _).mpr hparse) hnot⟩
    rw [hstamp, hmode, Option.getD_none]
    rfl

theorem stamped_setTimes {mtime : Json} (h : outcome (setTimes spelling mtime) v = (.ok (), w)) :
    Stamped (.setTimes spelling mtime) now v.root w.root := by
  obtain ⟨p, hp, rfl⟩ := setTimes_ok h
  refine .of_changed (p := p) (fun q => Node.bareAt_mapStamp _ p q v.root)
    (fun q hne => ⟨rfl, if_neg fun hq => hne (Option.some.inj (hq.symm.trans hp)), id⟩)
    fun c d _ hd => ages_of_mapStamp hd rfl rfl ?_ id id
  simp [Operation.timeSet?, hp]

theorem stamped_setMode {mode : Int} (h : outcome (setMode spelling mode) v = (.ok (), w)) :
    Stamped (.setMode spelling mode) now v.root w.root := by
  obtain ⟨p, hp, rfl⟩ := setMode_ok h
  refine .of_changed (p := p) (fun q => Node.bareAt_mapStamp _ p q v.root)
    (fun q hne => ⟨if_neg fun hq => hne (Option.some.inj (hq.symm.trans hp)), rfl, id⟩)
    fun c d _ hd => ages_of_mapStamp hd rfl ?_ rfl id id
  simp [Operation.modeSet?, hp]

end

theorem stamped_of_flipped_or_eq (h : ∀ p, op.Spares p)
    (hcases : w = v ∨ ∃ p name, Node.Flipped now p name v.root w.root) :
    Stamped op now v.root w.root := by
  rcases hcases with rfl | ⟨p, name, hflip⟩
  · exact .refl h w.root
  · exact .of_flipped hflip fun q _ => h q

/-- An operation that succeeds on a volume at a time treats kinds, modes and times as follows. A node
that stays keeps its kind and the time it was made at; its mode changes to the one that is set at it;
the time of its last change becomes the present one if it is a directory that gets or loses an entry or
a file that is written, and changes otherwise only to the one that is set at it. A node that was not
there before is as new. -/
theorem stamped_of_perform (hroot : v.root.isDirectory = true) {value : Value}
    (h : outcome (op.perform now) v = (.ok value, w)) : Stamped op now v.root w.root := by
  cases op with
  | write mode s content =>
    obtain ⟨data, hwrite⟩ := writeContent_ok (ok_of_silent h)
    exact stamped_writeFile (fun _ => rfl) (fun _ => rfl) (fun _ => Iff.rfl) hwrite
  | makeDirectory s recursive =>
    cases recursive with
    | false =>
      exact stamped_of_flipped_or_eq (fun _ => ⟨rfl, rfl, id⟩)
        (.inr (makeDirectory_flipped (ok_of_silent h)))
    | true =>
      exact stamped_of_flipped_or_eq (fun _ => ⟨rfl, rfl, id⟩)
        (makeDirectories_flipped hroot (ok_of_silent h))
  | copyFile source destination =>
    obtain ⟨data, hwrite⟩ := copyFile_ok (ok_of_silent h)
    exact stamped_writeFile (fun _ => rfl) (fun _ => rfl) (fun _ => Iff.rfl) hwrite
  | remove s recursive force =>
    exact stamped_of_flipped_or_eq (fun _ => ⟨rfl, rfl, id⟩) (remove_flipped (ok_of_silent h))
  | setTimes s mtime => exact stamped_setTimes (ok_of_silent h)
  | setMode s mode => exact stamped_setMode (ok_of_silent h)
  | _ => exact .of_looks (fun _ => ⟨rfl, rfl, id⟩) (looks_perform _ rfl now) h

/-- Two directories are made one in another: the one above them is touched, and the root is not. -/
theorem stamped_of_perform_two_directories :
    let d : Name := ⟨.ofString "d", by decide⟩
    let e : Name := ⟨.ofString "e", by decide⟩
    let f : Name := ⟨.ofString "f", by decide⟩
    let op := Operation.makeDirectory (.ofString "/d/e/f") true
    let v : Volume := ⟨.directory ⟨0o777, .integer 0, 0⟩ [(d, .newDirectory 0)], false⟩
    let made := Node.directory ⟨0o777, .integer 5, 5⟩ [(f, .newDirectory 5)]
    let w : Volume := ⟨.directory ⟨0o777, .integer 0, 0⟩
      [(d, .directory ⟨0o777, .integer 5, 0⟩ [(e, made)])], false⟩
    v.root.isDirectory = true ∧ outcome (op.perform 5) v = (.ok .nothing, w) ∧
      Stamped op 5 v.root w.root := by
  intro d e f op v made w
  have hrun : outcome (op.perform 5) v = (.ok .nothing, w) := rfl
  exact ⟨rfl, hrun, stamped_of_perform rfl hrun⟩

end MemoryShell.Volume
