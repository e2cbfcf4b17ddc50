import Mathlib.Data.Set.List
import MemoryShell.Proofs.Volume.Clash

/-!
Snapshots whose order does not count. The fields of an object are made one after another, and each may
find what those before it have made. But if every key is the one spelling of its path and no key comes
twice, then the fields can be made if and only if they agree with one another, and what they make can be
read off them, whatever their order.
-/

set_option autoImplicit false

namespace MemoryShell.Snapshot

open Volume

/-- The keys of some fields that are spellings are canonical ones. -/
def Canonical (fields : List (Text × Json)) : Prop :=
  ∀ field ∈ fields, ∀ p, Path.parse? field.1 = some p → field.1 = p.text

/-- Some fields agree with one another: each key is absolute, each value is null or a text that has
octets, no file is to stand at the root, and none above another key. -/
structure Consistent (fields : List (Text × Json)) : Prop where
  absolute : ∀ field ∈ fields, Path.isAbsolute field.1 = true
  valued : ∀ field ∈ fields,
    field.2 = .null ∨ ∃ t, field.2 = .string t ∧ (Utf8.encodeText? t).isSome = true
  rooted : ∀ t, (Path.text [], .string t) ∉ fields
  apart : ∀ {p q t content},
    (Path.text p, .string t) ∈ fields → (Path.text q, content) ∈ fields → p <+: q → p = q

/-- A path is one of the keys or leads to one, or it is the root. -/
def Leads (fields : List (Text × Json)) (p : Path) : Prop :=
  p = [] ∨ ∃ q content, (Path.text q, content) ∈ fields ∧ p <+: q

/-- An open volume has what some fields say: files with their octets at the keys with a text,
directories at the other keys and above all of them, and nothing else. -/
structure Shows (fields : List (Text × Json)) (v : Volume) : Prop where
  isOpen : v.released = false
  file : ∀ {p t}, (Path.text p, .string t) ∈ fields →
    ∃ data, Utf8.encodeText? t = some data ∧ v.root.content p = some (.file data)
  directory : ∀ {p}, Leads fields p → (∀ t, (Path.text p, .string t) ∉ fields) →
    v.root.content p = some .directory
  missing : ∀ {p}, ¬ Leads fields p → v.root.content p = none

variable {fields others : List (Text × Json)} {v w : Volume} {now : Int}

theorem Consistent.congr (h : Consistent fields) (hsame : ∀ field, field ∈ others ↔ field ∈ fields) :
    Consistent others where
  absolute field hfield := h.absolute field ((hsame field).mp hfield)
  valued field hfield := h.valued field ((hsame field).mp hfield)
  rooted t ht := h.rooted t ((hsame _).mp ht)
  apart hp hq hpre := h.apart ((hsame _).mp hp) ((hsame _).mp hq) hpre

theorem leads_congr (hsame : ∀ field, field ∈ others ↔ field ∈ fields) (p : Path) :
    Leads others p ↔ Leads fields p := by
  simp only [Leads, hsame]

theorem Shows.sameContent (hv : Shows fields v) (hw : Shows others w)
    (hsame : ∀ field, field ∈ others ↔ field ∈ fields) : v.root.SameContent w.root := by
  intro p
  by_cases hleads : Leads fields p
  · have hleads' : Leads others p := (leads_congr hsame p).mpr hleads
    by_cases hfile : ∃ t, (Path.text p, .string t) ∈ fields
    · obtain ⟨t, ht⟩ := hfile
      obtain ⟨data, hdata, hp⟩ := hv.file ht
      obtain ⟨data', hdata', hp'⟩ := hw.file ((hsame _).mpr ht)
      rw [hp, hp', Option.some.inj (hdata.symm.trans hdata')]
    · have hnone : ∀ t, (Path.text p, .string t) ∉ fields := fun t ht => hfile ⟨t, ht⟩
      rw [hv.directory hleads hnone,
        hw.directory hleads' fun t ht => hnone t ((hsame _).mp ht)]
  · rw [hv.missing hleads, hw.missing fun h => hleads ((leads_congr hsame p).mp h)]

theorem loadEntry_ok {key : Text} {content : Json}
    (h : outcome (loadEntry now key content) v = (.ok (), w)) :
    Path.isAbsolute key = true ∧
      (content = .null ∨ ∃ t, content = .string t ∧ (Utf8.encodeText? t).isSome = true) := by
  unfold loadEntry at h
  cases hp : Path.parse? key with
  | none => simp [hp] at h
  | some p =>
    rw [hp] at h
    have habs : Path.isAbsolute key = true := by
      by_contra hnot
      simp [Path.parse?, hnot] at hp
    refine ⟨habs, ?_⟩
    cases content with
    | null => exact .inl rfl
    | string t =>
      obtain ⟨_, u, -, hwrite⟩ := ok_of_outcome_bind (ok_of_outcome_adapt h)
      rw [outcome_writeText] at hwrite
      cases ht : Utf8.encodeText? t with
      | none => simp [ht] at hwrite
      | some data => exact .inr ⟨t, rfl, by rw [ht]; rfl⟩
    | _ => cases h

theorem loadEntries_ok (h : outcome (loadEntries now fields) v = (.ok (), w)) :
    ∀ field ∈ fields, Path.isAbsolute field.1 = true ∧
      (field.2 = .null ∨ ∃ t, field.2 = .string t ∧ (Utf8.encodeText? t).isSome = true) := by
  induction fields generalizing v with
  | nil => exact fun _ hfield => nomatch hfield
  | cons first rest ih =>
    obtain ⟨_, u, hfirst, hrest⟩ := ok_of_outcome_bind h
    exact List.forall_mem_cons.mpr ⟨loadEntry_ok hfirst, ih hrest⟩

theorem consistent_of_toVolume (h : toVolume now (.object fields) = .ok v) : Consistent fields := by
  have hloaded : Loaded fields v := loaded_of_toVolume h
  have heach := loadEntries_ok (toVolume_object_eq_ok_iff.mp h)
  have hfile : ∀ {p t}, (Path.text p, Json.string t) ∈ fields → HasFile fields p :=
    fun ht => ⟨_, ht, Path.parse?_text _⟩
  refine ⟨fun field hfield => (heach field hfield).1, fun field hfield => (heach field hfield).2,
    fun t ht => ?_, fun {p q t content} hp hq hpre => ?_⟩
  · exact hloaded.not_prefix (.inl rfl) (hfile ht) (List.prefix_refl [])
  · rcases (heach _ hq).2 with hnull | ⟨t', ht', -⟩
    · obtain rfl : content = .null := hnull
      have hdirectory : HasDirectory fields q :=
        .inr ⟨_, hq, q, Path.parse?_text q, List.prefix_refl q⟩
      exact absurd hpre (hloaded.not_prefix hdirectory (hfile hp))
    · obtain rfl : content = .string t' := ht'
      have hdirectory : HasDirectory fields q.dropLast :=
        .inr ⟨_, hq, q, Path.parse?_text q, List.prefix_refl q.dropLast⟩
      by_contra hne
      refine hloaded.not_prefix hdirectory (hfile hp) ?_
      -- a path that leads to another one leads to what is above that
      have hnil : q ≠ [] := by
        rintro rfl
        exact hne (List.prefix_nil.mp hpre)
      rw [← List.dropLast_append_getLast hnil] at hpre hne
      exact (List.prefix_concat_iff.mp hpre).resolve_left hne

variable {items : List Item}

theorem Item.field_mem {i : Item} (hi : i ∈ items) :
    (i.path.text, i.field.2) ∈ items.map Item.field :=
  List.mem_map_of_mem hi

theorem Item.string_mem {i : Item} (hi : i ∈ items) {t : Text} (ht : i.text? = some t) :
    (i.path.text, .string t) ∈ items.map Item.field :=
  field_of_some ht ▸ List.mem_map_of_mem hi

def planned (items : List Item) (q : Path) : Option Shape :=
  match items.find? fun i => i.path = q with
  | some i => i.shape?
  | none => if Reached (items.map Item.path) q then some .directory else none

theorem planned_of_mem (hdistinct : (items.map Item.path).Nodup) {i : Item} (hi : i ∈ items) :
    planned items i.path = i.shape? := by
  have hfound : (items.find? fun j => j.path = i.path) = some i := by
    cases hj : items.find? fun j => j.path = i.path with
    | none => simpa using List.find?_eq_none.mp hj i hi
    | some j =>
      have hpath : j.path = i.path := by simpa using List.find?_some hj
      rw [List.inj_on_of_nodup_map hdistinct (List.mem_of_find?_eq_some hj) hi hpath]
  rw [planned, hfound]

theorem planned_of_not_mem {q : Path} (hq : ∀ i ∈ items, i.path ≠ q) :
    (Reached (items.map Item.path) q → planned items q = some .directory) ∧
      (¬ Reached (items.map Item.path) q → planned items q = none) := by
  have hnone : (items.find? fun j => j.path = q) = none := by
    rw [List.find?_eq_none]
    exact fun i hi => by simpa using hq i hi
  rw [planned, hnone]
  exact ⟨fun h => if_pos h, fun h => if_neg h⟩

theorem reached_of_planned {q : Path} {s : Shape} (h : planned items q = some s) :
    Reached (items.map Item.path) q := by
  by_cases hq : ∀ i ∈ items, i.path ≠ q
  · by_contra hnot
    rw [(planned_of_not_mem hq).2 hnot] at h
    cases h
  · obtain ⟨i, hi, rfl⟩ : ∃ i ∈ items, i.path = q := by simpa using hq
    exact .inr ⟨i.path, List.mem_map_of_mem hi, List.prefix_refl _⟩

theorem planned_of_reached (hdistinct : (items.map Item.path).Nodup) {q : Path}
    (hq : Reached (items.map Item.path) q)
    (hnone : ∀ t, (q.text, .string t) ∉ items.map Item.field) : planned items q = some .directory := by
  by_cases hfree : ∀ i ∈ items, i.path ≠ q
  · exact (planned_of_not_mem hfree).1 hq
  · obtain ⟨i, hi, rfl⟩ : ∃ i ∈ items, i.path = q := by simpa using hfree
    rw [planned_of_mem hdistinct hi]
    rcases ht : i.text? with _ | t
    · exact Item.shape?_of_none ht
    · exact absurd (Item.string_mem hi ht) (hnone t)

theorem Consistent.exists_shape (h : Consistent (items.map Item.field)) {i : Item} (hi : i ∈ items) :
    ∃ s, i.shape? = some s := by
  rcases ht : i.text? with _ | t
  · exact ⟨.directory, Item.shape?_of_none ht⟩
  · rcases h.valued _ (Item.string_mem hi ht) with hnull | ⟨t', ht', hsome⟩
    · cases hnull
    · obtain rfl := Json.string.inj ht'
      obtain ⟨data, hdata⟩ := Option.isSome_iff_exists.mp hsome
      exact ⟨.file data, by rw [Item.shape?_of_some ht, hdata]; rfl⟩

theorem closed_planned (h : Consistent (items.map Item.field))
    (hdistinct : (items.map Item.path).Nodup) : Closed (planned items) := by
  intro p q s hp hpre hne
  have hreached : Reached (items.map Item.path) p := reached_of_planned hp
  refine planned_of_reached hdistinct (hreached.of_prefix hpre) fun t ht => ?_
  rcases hreached with rfl | ⟨r, hr, hpr⟩
  · exact hne (List.prefix_nil.mp hpre)
  · obtain ⟨i, hi, rfl⟩ := List.mem_map.mp hr
    have heq : q = i.path := h.apart ht (Item.field_mem hi) (hpre.trans hpr)
    rw [← heq] at hpr
    exact hne (hpre.eq_of_length_le hpr.length_le)

theorem draws_planned (h : Consistent (items.map Item.field))
    (hdistinct : (items.map Item.path).Nodup) : Draws (planned items) items where
  closed := closed_planned h hdistinct
  root := planned_of_reached hdistinct (.inl rfl) h.rooted
  distinct := hdistinct
  each i hi := by
    obtain ⟨s, hs⟩ := h.exists_shape hi
    exact ⟨s, hs, by rw [planned_of_mem hdistinct hi, hs]⟩

theorem exists_items (h : Consistent fields) (hcanonical : Canonical fields) :
    ∃ items : List Item, fields = items.map Item.field := by
  have hrange : fields ∈ Set.range (List.map Item.field) := by
    rw [Set.range_list_map]
    rintro ⟨key, content⟩ hfield
    have hp := Path.parse?_eq_some_of_isAbsolute (h.absolute _ hfield)
    have hkey : key = Path.text _ := hcanonical _ hfield _ hp
    rcases h.valued _ hfield with hnull | ⟨t, ht, -⟩
    · exact ⟨⟨_, none⟩, Prod.ext hkey.symm hnull.symm⟩
    · exact ⟨⟨_, some t⟩, Prod.ext hkey.symm ht.symm⟩
  obtain ⟨items, hitems⟩ := hrange
  exact ⟨items, hitems.symm⟩

theorem leads_iff_reached (p : Path) :
    Leads (items.map Item.field) p ↔ Reached (items.map Item.path) p := by
  refine or_congr_right ⟨?_, ?_⟩
  · rintro ⟨q, content, hmem, hpre⟩
    obtain ⟨i, hi, heq⟩ := List.mem_map.mp hmem
    have hpath : i.path = q := Path.text_injective (congrArg Prod.fst heq)
    exact ⟨q, hpath ▸ List.mem_map_of_mem hi, hpre⟩
  · rintro ⟨q, hq, hpre⟩
    obtain ⟨i, hi, rfl⟩ := List.mem_map.mp hq
    exact ⟨i.path, i.field.2, Item.field_mem hi, hpre⟩

theorem exists_item_of_string_mem {p : Path} {t : Text}
    (h : (Path.text p, Json.string t) ∈ items.map Item.field) :
    ∃ i ∈ items, i.path = p ∧ i.text? = some t := by
  obtain ⟨⟨q, o⟩, hi, heq⟩ := List.mem_map.mp h
  obtain ⟨hkey, hvalue⟩ := Prod.mk.inj heq
  refine ⟨_, hi, Path.text_injective hkey, ?_⟩
  cases o with
  | none => cases hvalue
  | some t' => exact congrArg some (Json.string.inj hvalue)

theorem shows_of_planned (h : Consistent (items.map Item.field))
    (hdistinct : (items.map Item.path).Nodup) (hopen : v.released = false)
    (hcontent : ∀ q, v.root.content q = planned items q) : Shows (items.map Item.field) v where
  isOpen := hopen
  file {p t} ht := by
    obtain ⟨i, hi, rfl, htext⟩ := exists_item_of_string_mem ht
    obtain ⟨s, hs⟩ := h.exists_shape hi
    rw [hcontent, planned_of_mem hdistinct hi, hs]
    rw [Item.shape?_of_some htext] at hs
    obtain ⟨data, hdata, rfl⟩ := Option.map_eq_some_iff.mp hs
    exact ⟨data, hdata, rfl⟩
  directory {p} hleads hnone := by
    rw [hcontent]
    exact planned_of_reached hdistinct ((leads_iff_reached p).mp hleads) hnone
  missing {p} hleads := by
    rw [hcontent]
    cases hp : planned items p with
    | none => rfl
    | some s => exact absurd ((leads_iff_reached p).mpr (reached_of_planned hp)) hleads

theorem exists_shows (h : Consistent fields) (hdistinct : (fields.map Prod.fst).Nodup)
    (hcanonical : Canonical fields) (now : Int) :
    ∃ v, toVolume now (.object fields) = .ok v ∧ Shows fields v := by
  obtain ⟨items, rfl⟩ := exists_items h hcanonical
  have hpaths : (items.map Item.path).Nodup := by
    rw [List.map_map] at hdistinct
    refine List.Nodup.of_map Path.text ?_
    rwa [List.map_map]
  have hall : ∀ q s, planned items q = some s → Reached (items.map Item.path) q :=
    fun _ _ => reached_of_planned
  obtain ⟨v, hv, hopen, hentry⟩ := (draws_planned h hpaths).toVolume hall now
  exact ⟨v, hv, shows_of_planned h hpaths hopen (Node.content_of_entry hentry)⟩

theorem toVolume_succeeds_iff (hdistinct : (fields.map Prod.fst).Nodup)
    (hcanonical : Canonical fields) (now : Int) :
    (∃ v, toVolume now (.object fields) = .ok v) ↔ Consistent fields := by
  refine ⟨fun ⟨v, hv⟩ => consistent_of_toVolume hv, fun h => ?_⟩
  obtain ⟨v, hv, -⟩ := exists_shows h hdistinct hcanonical now
  exact ⟨v, hv⟩

theorem shows_of_toVolume (hdistinct : (fields.map Prod.fst).Nodup)
    (hcanonical : Canonical fields) (h : toVolume now (.object fields) = .ok v) :
    Shows fields v := by
  obtain ⟨w, hw, hshows⟩ := exists_shows (consistent_of_toVolume h) hdistinct hcanonical now
  rw [h] at hw
  exact Except.ok.inj hw ▸ hshows

/-- An object whose keys are distinct, and canonical where they are spellings, is loaded if and only if
its fields agree with one another. Then the volume has exactly the keys and what is above them: files
with their octets at the keys with a text, and directories elsewhere. So with the fields in another
order, and at another time, it is loaded as well or fails as well, and has the same content. -/
theorem fields_load_in_any_order (hdistinct : (fields.map Prod.fst).Nodup)
    (hcanonical : Canonical fields) (now : Int) :
    ((∃ v, toVolume now (.object fields) = .ok v) ↔ Consistent fields) ∧
    (∀ v, toVolume now (.object fields) = .ok v → Shows fields v) ∧
    ∀ others : List (Text × Json), others.Perm fields → ∀ later,
      ((∃ w, toVolume later (.object others) = .ok w) ↔
        ∃ v, toVolume now (.object fields) = .ok v) ∧
      ∀ v w, toVolume now (.object fields) = .ok v → toVolume later (.object others) = .ok w →
        v.root.SameContent w.root := by
  refine ⟨toVolume_succeeds_iff hdistinct hcanonical now,
    fun v hv => shows_of_toVolume hdistinct hcanonical hv, fun others hperm later => ?_⟩
  have hsame : ∀ field, field ∈ others ↔ field ∈ fields := fun _ => hperm.mem_iff
  have hdistinct' : (others.map Prod.fst).Nodup := (hperm.map Prod.fst).nodup_iff.mpr hdistinct
  have hcanonical' : Canonical others := fun field hfield => hcanonical field ((hsame field).mp hfield)
  refine ⟨?_, fun v w hv hw => ?_⟩
  · rw [toVolume_succeeds_iff hdistinct' hcanonical', toVolume_succeeds_iff hdistinct hcanonical]
    exact ⟨fun h => h.congr fun field => (hsame field).symm, fun h => h.congr hsame⟩
  · have hshows : Shows fields v := shows_of_toVolume hdistinct hcanonical hv
    exact hshows.sameContent (shows_of_toVolume hdistinct' hcanonical' hw) hsame

/-- A file may be loaded before the directory that it is in. -/
theorem fields_load_in_any_order_reversed :
    let fields := [(Text.ofString "/d", Json.null), (Text.ofString "/d/f", Json.ofString "hi")]
    Consistent fields ∧ ∃ v w, toVolume 0 (.object fields) = .ok v ∧
      toVolume 1 (.object fields.reverse) = .ok w ∧ v.root.SameContent w.root := by
  intro fields
  have hdistinct : (fields.map Prod.fst).Nodup := by decide +kernel
  have hcanonical : Canonical fields := by
    intro field hfield p hp
    rcases List.mem_cons.mp hfield with rfl | hfield
    · obtain rfl := Option.some.inj hp
      rfl
    · obtain rfl := List.mem_singleton.mp hfield
      obtain rfl := Option.some.inj hp
      rfl
  obtain ⟨hconsistent, -, hany⟩ := fields_load_in_any_order hdistinct hcanonical 0
  obtain ⟨v, hv⟩ : ∃ v, toVolume 0 (.object fields) = .ok v := ⟨_, rfl⟩
  obtain ⟨hloads, hsame⟩ := hany fields.reverse (List.reverse_perm fields) 1
  obtain ⟨w, hw⟩ := hloads.mpr ⟨v, hv⟩
  exact ⟨hconsistent.mp ⟨v, hv⟩, v, w, hv, hw, hsame v w hv hw⟩

end MemoryShell.Snapshot
