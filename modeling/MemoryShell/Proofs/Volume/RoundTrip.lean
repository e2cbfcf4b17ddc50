import MemoryShell.Proofs.Json.RoundTrip
import MemoryShell.Proofs.Volume.Loading
import MemoryShell.Proofs.Volume.Twins

/-!
Snapshots lose nothing but modes and times. Whatever came about in an open volume, its snapshot is
loaded again and gives the same paths, kinds and octets; so volumes have the same snapshot exactly if
they have the same content.
-/

set_option autoImplicit false

namespace MemoryShell

namespace Path

theorem isPair_slash_left (c : CodePoint) : Json.isPair slash c = false := rfl

theorem isPair_slash_right (c : CodePoint) : Json.isPair c slash = false := by
  have hlow : (0xDC00 ≤ slash.val) = False := by decide
  simp [Json.isPair, hlow]

theorem unpaired_text {p : Path} (h : ∀ n ∈ p, Json.Unpaired n.text) : Json.Unpaired p.text := by
  have hnames : Json.Unpaired (p.flatMap fun n => slash :: n.text) := by
    induction p with
    | nil => exact List.IsChain.nil
    | cons n p ih =>
      have hname : Json.Unpaired (slash :: n.text) :=
        List.isChain_cons.mpr ⟨fun c _ => isPair_slash_left c, h n List.mem_cons_self⟩
      have hrest := ih fun m hm => h m (List.mem_cons_of_mem n hm)
      refine List.IsChain.append hname hrest fun c _ d hd => ?_
      cases p with
      | nil => cases hd
      | cons m p =>
        obtain rfl := Option.some.inj hd
        exact isPair_slash_right c
  cases p with
  | nil => exact List.IsChain.singleton slash
  | cons n p => exact hnames

theorem unpaired_join_of_unpaired {directory spelling : Text} (h : Json.Unpaired directory)
    (hspelling : Json.Unpaired spelling) : Json.Unpaired (join directory spelling) := by
  have hslash : Json.Unpaired (slash :: spelling) :=
    List.isChain_cons.mpr ⟨fun c _ => isPair_slash_left c, hspelling⟩
  unfold join
  split
  · exact hspelling
  · split
    · rename_i hend
      refine List.IsChain.append h hspelling fun c hc d _ => ?_
      rcases Bool.or_eq_true_iff.mp hend with hnil | hlast
      · obtain rfl := of_decide_eq_true hnil
        cases hc
      · obtain rfl := Option.some.inj ((Option.mem_def.mp hc).symm.trans (of_decide_eq_true hlast))
        exact isPair_slash_left d
    · refine List.IsChain.append h hslash fun c _ d hd => ?_
      obtain rfl := Option.some.inj hd
      exact isPair_slash_right c

end Path

namespace Snapshot

open Volume

variable {root : Node}

/-- The name of an entry has no pair of surrogates that reading would join. -/
abbrev Spellable (n : Name) : Prop :=
  Json.Unpaired n.text

theorem plain_value (s : Shape) : (value s).Plain := by
  cases s with
  | directory => trivial
  | file data => exact Json.unpaired_decodeText data

theorem nodup_keys_entries (hd : root.isDirectory = true) (ho : root.Everywhere Node.InOrder) :
    (OrderedMap.keys (entries root)).Nodup := by
  have hkeys := (nodup_listed ho).map fun p q h => Path.text_injective h
  rw [entries_eq_listed hd, OrderedMap.keys, List.map_map]
  rwa [List.map_map] at hkeys

theorem plain_entries (hd : root.isDirectory = true) : ∀ f ∈ entries root, f.2.Plain := by
  intro f hf
  rw [entries_eq_listed hd] at hf
  obtain ⟨l, -, rfl⟩ := List.mem_map.mp hf
  exact plain_value l.2

theorem ofString_print (v : Json) : Text.ofString (Json.print v) = Text.ofChars (Json.render v) := by
  rw [Json.print, Text.ofString, String.toList_ofList]

theorem parseText_print_entries (hd : root.isDirectory = true) (ho : root.Everywhere Node.InOrder)
    (hn : root.Everywhere (Node.NamesIn Spellable)) :
    Json.parseText (Text.ofString (Json.print (.object (entries root)))) =
      .ok (.object (entries root)) := by
  have hkeys : (entries root).map Json.joinKey = entries root := by
    refine (List.map_congr_left fun f hf => ?_).trans (List.map_id _)
    rw [entries_eq_listed hd] at hf
    obtain ⟨l, hl, rfl⟩ := List.mem_map.mp hf
    obtain ⟨child, hw, -⟩ := (Node.mem_leaves ho).mp (mem_listed.mp hl).1
    exact congrArg (·, value l.2) (Json.joinPairs_of_unpaired (Path.unpaired_text (hn.names hw)))
  rw [ofString_print, Json.parseText_render_object (plain_entries hd), hkeys,
    OrderedMap.ofList_of_nodup (nodup_keys_entries hd ho)]

theorem entries_eq_of_sameContent {a b : Node} (ha : a.isDirectory = true)
    (hb : b.isDirectory = true) (hoa : a.Everywhere Node.InOrder) (hob : b.Everywhere Node.InOrder)
    (h : a.SameContent b) : entries a = entries b := by
  rw [entries_eq_listed ha, entries_eq_listed hb, listed, listed, h.leaves_eq hoa hob]

section

variable {v : Volume} {levels : Nat}

theorem writeWithin_eq (hr : v.released = false) (h : v.root.height ≤ levels) :
    writeWithin levels v = .ok (Json.print (.object (entries v.root))) := by
  rw [writeWithin, ofVolume, hr, if_neg Bool.false_ne_true, if_neg (Nat.not_lt.mpr h)]
  rfl

theorem writeWithin_eq_tooDeep (hr : v.released = false) (h : levels < v.root.height) :
    writeWithin levels v = .error .tooDeep := by
  rw [writeWithin, ofVolume, hr, if_neg Bool.false_ne_true, if_pos h]
  rfl

theorem writeWithin_eq_released (hr : v.released = true) :
    writeWithin levels v = .error .released := by
  rw [writeWithin, ofVolume, if_pos hr]
  rfl

theorem writeWithin_eq_ok_iff {text : String} :
    writeWithin levels v = .ok text ↔ v.released = false ∧ v.root.height ≤ levels ∧
      text = Json.print (.object (entries v.root)) := by
  cases hr : v.released with
  | true => simp [writeWithin_eq_released hr]
  | false =>
    by_cases h : v.root.height ≤ levels
    · rw [writeWithin_eq hr h]
      simp [h, eq_comm]
    · rw [writeWithin_eq_tooDeep hr (Nat.lt_of_not_le h)]
      simp [h]

theorem exists_write_iff (hr : v.released = false) :
    (∃ text, Snapshot.write v = .ok text) ↔ v.root.height ≤ levelLimit := by
  simp [Snapshot.write, writeWithin_eq_ok_iff, hr]

end

theorem exists_read {v : Volume} (hv : WellFormed v)
    (hn : v.root.Everywhere (Node.NamesIn Spellable)) (now : Int) :
    ∃ w, read now (Json.print (.object (entries v.root))) = .ok w ∧ w.released = false ∧
      ∀ q, w.root.entry q = (v.root.content q).map Shape.fresh := by
  rw [read, parseText_print_entries hv.root hv.ordered hn]
  exact toVolume_entries hv.root hv.ordered now

theorem spellable_of_read_print {now : Int} {v w : Volume} (hv : WellFormed v)
    (h : read now (Json.print (.object (entries v.root))) = .ok w) :
    w.root.Everywhere (Node.NamesIn Spellable) := by
  have hchanges : Changes Spellable False (Volume.empty now) w := by
    refine changes_of_read (fun fields hfields field hf p hp n hn => ?_) h
    rw [ofString_print, Json.parseText_render_object (plain_entries hv.root)] at hfields
    obtain rfl := Json.object.inj (Except.ok.inj hfields)
    obtain ⟨f, hmem, hkey⟩ := List.mem_map.mp (OrderedMap.mem_keys_of_mem_ofList hf)
    obtain ⟨g, -, rfl⟩ := List.mem_map.mp hmem
    have hunpaired : Json.Unpaired field.1 := hkey ▸ Json.unpaired_joinPairs g.1
    exact hunpaired.part (Path.infix_of_mem_parse? hp hn)
  exact hchanges.everywhere (Node.namesIn_local _) (fun hmode => hmode.elim)
    (Node.everywhere_newDirectory (Node.namesIn_local _) now)

end Snapshot

namespace Node

theorem SameContent.namesIn {a b : Node} {Allowed : Name → Prop} (h : a.SameContent b)
    (hb : b.Everywhere (NamesIn Allowed)) : a.Everywhere (NamesIn Allowed) := by
  intro p child hw
  cases child with
  | file s data => trivial
  | directory s es =>
    intro n hn
    obtain ⟨x, hx⟩ := Option.isSome_iff_exists.mp (Entries.isSome_find?_iff.mpr hn)
    have hchild : a.walk (p ++ [n]) = .ok x := at?_eq_some.mp ((at?_name hw n).trans hx)
    obtain ⟨y, hy, -⟩ := content_eq_some.mp ((h (p ++ [n])).symm.trans (content_of_walk hchild))
    exact hb.names hy n (by simp)

theorem SameContent.height_eq {a b : Node} (ha : a.Everywhere InOrder) (hb : b.Everywhere InOrder)
    (h : a.SameContent b) : a.height = b.height := by
  refine Node.height_eq ha hb fun p => ?_
  have hsome := congrArg Option.isSome (h p)
  rwa [content_eq_entry, content_eq_entry, Option.isSome_map, Option.isSome_map] at hsome

end Node

namespace Volume

open Snapshot

theorem exists_read_sameContent_iff {v : Volume} (hv : WellFormed v) (now : Int) :
    (∃ w, read now (Json.print (.object (entries v.root))) = .ok w ∧ w.root.SameContent v.root) ↔
      v.root.Everywhere (Node.NamesIn Spellable) := by
  constructor
  · rintro ⟨w, hw, hsame⟩
    exact Node.SameContent.namesIn (fun q => (hsame q).symm) (spellable_of_read_print hv hw)
  · intro hn
    obtain ⟨w, hw, -, hentry⟩ := exists_read hv hn now
    exact ⟨w, hw, Node.sameContent_of_entry hentry⟩

def Event.Spelled : Event → Prop
  | .performed op => ∀ s ∈ op.targets, Json.Unpaired s
  | .loaded snapshot => ∀ fields, Json.parseText snapshot = .ok (.object fields) →
      ∀ field ∈ fields, Json.Unpaired field.1
  | .loadedOctets snapshot => ∀ t fields, Json.textOfOctets? snapshot = some t →
      Json.parseText t = .ok (.object fields) → ∀ field ∈ fields, Json.Unpaired field.1
  | .released => True

theorem namesAllowed_of_unpaired {t : Text} (h : Json.Unpaired t) : NamesAllowed Spellable t :=
  fun _ hp _ hn => h.part (Path.infix_of_mem_parse? hp hn)

theorem spellable_apply {v : Volume} (hv : v.root.Everywhere (Node.NamesIn Spellable)) {e : Event}
    (he : e.Spelled) (now : Int) : (e.apply now v).root.Everywhere (Node.NamesIn Spellable) := by
  have hread : ∀ t, (∀ fields, Json.parseText t = .ok (.object fields) →
      ∀ field ∈ fields, Json.Unpaired field.1) →
      ((read now t).toOption.getD v).root.Everywhere (Node.NamesIn Spellable) := by
    intro t ht
    cases hr : read now t with
    | error f => exact hv
    | ok w =>
      have hchanges : Changes Spellable False (empty now) w :=
        changes_of_read (fun fields hfields f hf => namesAllowed_of_unpaired (ht fields hfields f hf)) hr
      exact hchanges.everywhere (Node.namesIn_local _) (fun hmode => hmode.elim)
        (Node.everywhere_newDirectory (Node.namesIn_local _) now)
  cases e with
  | performed op =>
    exact (changes_perform (fun s hs => namesAllowed_of_unpaired (he s hs)) now v).everywhere
      (Node.namesIn_local _) (fun _ node m hn => by cases node <;> exact hn) hv
  | loaded snapshot => exact hread snapshot he
  | loadedOctets snapshot =>
    rw [Event.apply, readOctets]
    cases ht : Json.textOfOctets? snapshot with
    | none => exact hv
    | some t => exact hread t fun fields => he t fields ht
  | released => exact Node.everywhere_newDirectory (Node.namesIn_local _) now

theorem spellable_after (start : Int) {history : List (Int × Event)}
    (h : ∀ event ∈ history, event.2.Spelled) :
    (after start history).root.Everywhere (Node.NamesIn Spellable) := by
  have hrun : ∀ v : Volume, v.root.Everywhere (Node.NamesIn Spellable) →
      (history.foldl (fun v event => event.2.apply event.1 v) v).root.Everywhere
        (Node.NamesIn Spellable) := by
    induction history with
    | nil => exact fun v hv => hv
    | cons event rest ih =>
      intro v hv
      exact ih (fun e he => h e (List.mem_cons_of_mem event he)) _
        (spellable_apply hv (h event List.mem_cons_self) event.1)
  exact hrun _ (Node.everywhere_newDirectory (Node.namesIn_local _) start)

theorem writeWithin_eq_iff {v w : Volume} (hv : WellFormed v) (hw : WellFormed w)
    (hopenv : v.released = false) (hopenw : w.released = false)
    (hnv : v.root.Everywhere (Node.NamesIn Spellable))
    (hnw : w.root.Everywhere (Node.NamesIn Spellable)) {levels : Nat}
    (hlevels : v.root.height ≤ levels) :
    writeWithin levels w = writeWithin levels v ↔ w.root.SameContent v.root := by
  rw [writeWithin_eq hopenv hlevels]
  constructor
  · intro h
    obtain ⟨-, -, htext⟩ := writeWithin_eq_ok_iff.mp h
    -- both are the content of what is loaded from the one text
    obtain ⟨x, hx, -, hentry⟩ := exists_read hv hnv 0
    obtain ⟨y, hy, -, hentry'⟩ := exists_read hw hnw 0
    rw [← htext, hx] at hy
    obtain rfl := Except.ok.inj hy
    intro q
    rw [← Node.sameContent_of_entry hentry q, ← Node.sameContent_of_entry hentry' q]
  · intro hsame
    have hheight : w.root.height ≤ levels := (hsame.height_eq hw.ordered hv.ordered).trans_le hlevels
    rw [writeWithin_eq hopenw hheight,
      entries_eq_of_sameContent hw.root hv.root hw.ordered hv.ordered hsame]

/-- A volume that came about is written exactly if the walk has room for its levels. What is written is
read with the same content exactly if no name has a high surrogate directly before a low one, which holds
if no path that was given has; it is then an open volume with the same snapshot, and volumes with such
names have the same snapshot exactly if they have the same paths, the same kind at each of them and the
same octets. -/
theorem read_write {start : Int} {history : List (Int × Event)} {v : Volume}
    (hv : after start history = v) (hr : v.released = false) (levels : Nat) :
    ((∀ event ∈ history, event.2.Spelled) → v.root.Everywhere (Node.NamesIn Spellable)) ∧
    (levels < v.root.height → writeWithin levels v = .error .tooDeep) ∧
    (v.root.height ≤ levels → ∃ text, writeWithin levels v = .ok text ∧
      (∀ now, (∃ w, read now text = .ok w ∧ w.root.SameContent v.root) ↔
        v.root.Everywhere (Node.NamesIn Spellable)) ∧
      (v.root.Everywhere (Node.NamesIn Spellable) →
        (∀ now, ∃ w, read now text = .ok w ∧ w.released = false ∧ w.root.SameContent v.root ∧
          writeWithin levels w = .ok text) ∧
        ∀ (start' : Int) (history' : List (Int × Event)) (v' : Volume),
          after start' history' = v' → v'.released = false →
          v'.root.Everywhere (Node.NamesIn Spellable) →
          (writeWithin levels v' = .ok text ↔ v'.root.SameContent v.root))) := by
  have hwell : WellFormed v := hv ▸ wellFormed_after start history
  refine ⟨fun hspelled => hv ▸ spellable_after start hspelled,
    writeWithin_eq_tooDeep hr, fun hlevels => ?_⟩
  refine ⟨_, writeWithin_eq hr hlevels, exists_read_sameContent_iff hwell, fun hnames => ⟨?_, ?_⟩⟩
  · intro now
    obtain ⟨w, hw, hopen, hentry⟩ := exists_read hwell hnames now
    have hsame : w.root.SameContent v.root := Node.sameContent_of_entry hentry
    refine ⟨w, hw, hopen, hsame, ?_⟩
    rw [← writeWithin_eq hr hlevels]
    exact (writeWithin_eq_iff hwell (wellFormed_of_read hw).1 hr hopen hnames
      (spellable_of_read_print hwell hw) hlevels).mpr hsame
  · intro start' history' v' hv' hr' hnames'
    rw [← writeWithin_eq hr hlevels]
    exact writeWithin_eq_iff hwell (hv' ▸ wellFormed_after start' history') hr hr' hnames hnames' hlevels

theorem writeWithin_of_made (start now : Int) {p : Path} {levels : Nat} (h : levels < p.length) :
    writeWithin levels (after start [(now, .performed (.makeDirectory p.text true))]) =
      .error .tooDeep := by
  have hcontent : ∀ q : Path, (fun _ => some Shape.directory) q = some .directory := fun _ => rfl
  obtain ⟨v, hmade, hopen, m, hm, hcovers⟩ := (holds_empty (hcontent []) start).makeDirectories
    (Path.parse?_text p) (fun q _ => hcontent q) now
  have hafter : after start [(now, .performed (.makeDirectory p.text true))] = v := by
    show (outcome (silent (makeDirectories now p.text)) (empty start)).2 = v
    rw [outcome_silent, hmade]
  have hentry : v.root.entry p = some (.directory Stamp.directoryMode) :=
    (hm p).symm.trans (hcovers.entry_eq_directory (.inr List.prefix_rfl) (hcontent p))
  have hwell : WellFormed v := hafter ▸ wellFormed_after start _
  have hheight : p.length ≤ v.root.height :=
    (Node.height_le_iff hwell.ordered).mp le_rfl p (by rw [hentry, Option.isSome_some])
  rw [hafter]
  exact writeWithin_eq_tooDeep hopen (h.trans_le hheight)

/-- Two halves of a character that stand next to each other in a name come back as the character: a
volume that has the one and a volume that has the other are not the same and have the same snapshot.
And a path with more names than there are levels, made at once, leaves a volume without a snapshot. -/
theorem snapshot_joins_halves :
    let halves : Text := ['/', 0xD83D, 0xDE00]
    let v := after 0 [(1, .performed (.makeDirectory halves false))]
    let w := after 0 [(1, .performed (.makeDirectory "/😀" false))]
    (v.released = false ∧ w.released = false ∧ ¬ w.root.SameContent v.root ∧
      ∃ text, Snapshot.write v = .ok text ∧ Snapshot.write w = .ok text ∧
        ∃ u, Snapshot.read 2 text = .ok u ∧ ¬ u.root.SameContent v.root) ∧
    ∃ deep : Text, Snapshot.write (after 0 [(1, .performed (.makeDirectory deep true))]) =
      .error .tooDeep := by
  intro halves v w
  have hne : ¬ w.root.SameContent v.root := by
    intro h
    have hname := h [⟨"😀", by decide⟩]
    exact absurd hname (by decide)
  have hopenv : v.released = false := by decide
  have hopenw : w.released = false := by decide
  have hv : Snapshot.write v = .ok (Json.print (.object (entries v.root))) :=
    writeWithin_eq hopenv (by decide)
  have hw : Snapshot.write w = .ok (Json.print (.object (entries w.root))) :=
    writeWithin_eq hopenw (by decide)
  have hsame : Json.print (.object (entries v.root)) = Json.print (.object (entries w.root)) :=
    congrArg String.ofList (by decide)
  have hspelled : w.root.Everywhere (Node.NamesIn Spellable) := by
    refine spellable_after 0 fun event hevent => ?_
    obtain rfl := List.mem_singleton.mp hevent
    exact fun s hs => List.mem_singleton.mp hs ▸ Json.unpaired_ofString _
  obtain ⟨u, hu, -, hentry⟩ := exists_read (wellFormed_after 0 _) hspelled 2
  refine ⟨⟨hopenv, hopenw, hne, _, hsame ▸ hv, hw, u, hu, fun h => hne fun q => ?_⟩,
    Path.text (List.replicate (levelLimit + 1) ⟨"a", by decide⟩), writeWithin_of_made 0 1 ?_⟩
  · rw [← Node.sameContent_of_entry hentry q, h q]
  · rw [List.length_replicate]
    exact Nat.lt_succ_self levelLimit

/-- Octets that are no UTF-8, an empty directory and a name outside ASCII come back. -/
theorem read_write_stray_octets :
    let history : List (Int × Event) :=
      [(1, .performed (.makeDirectory "/d/e" true)),
        (2, .performed (.write .replace "/d/ü" (.octets [0xFF, 0x68, 0xC3])))]
    let v := after 0 history
    (∀ event ∈ history, event.2.Spelled) ∧ v.released = false ∧ v.root.height ≤ 2 ∧
      ∃ text w p, writeWithin 2 v = .ok text ∧ Snapshot.read 3 text = .ok w ∧
        Path.parse? "/d/ü" = some p ∧ w.root.content p = some (.file [0xFF, 0x68, 0xC3]) := by
  intro history v
  have hspelled : ∀ event ∈ history, event.2.Spelled := by
    intro event hevent
    rcases List.mem_cons.mp hevent with rfl | hevent
    · exact fun s hs => List.mem_singleton.mp hs ▸ Json.unpaired_ofString _
    · obtain rfl := List.mem_singleton.mp hevent
      exact fun s hs => List.mem_singleton.mp hs ▸ Json.unpaired_ofString _
  have hr : v.released = false := rfl
  have hheight : v.root.height ≤ 2 := by decide
  obtain ⟨hspellable, -, hwritten⟩ := read_write (v := v) rfl hr 2
  obtain ⟨text, hwrite, -, hread⟩ := hwritten hheight
  obtain ⟨w, hw, -, hsame, -⟩ := (hread (hspellable hspelled)).1 3
  obtain ⟨p, hp⟩ := Option.isSome_iff_exists.mp
    (show (Path.parse? "/d/ü").isSome = true from rfl)
  refine ⟨hspelled, hr, hheight, text, w, p, hwrite, hw, hp, (hsame p).trans ?_⟩
  obtain rfl := Option.some.inj hp
  rfl

end Volume

end MemoryShell
