import MemoryShell.Proofs.Tree.Bare

set_option autoImplicit false

namespace MemoryShell.Node

/-- A node was made at a time, with the mode that its kind has at first. -/
def IsFresh (now : Int) (node : Node) : Prop :=
  node.stamp = .fresh (if node.isDirectory then Stamp.directoryMode else Stamp.fileMode) now

/-- An entry of a directory came or went. -/
def Regrouped (x y : Node) (p : Path) : Prop :=
  ∃ name, (y.at? (p ++ [name])).isSome ≠ (x.at? (p ++ [name])).isSome

/-- One entry of one directory came or went, at a time. -/
structure Flipped (now : Int) (p : Path) (name : Name) (x y : Node) : Prop where
  directory : ∃ s es, x.walk p = .ok (.directory s es)
  flipped : (y.at? (p ++ [name])).isSome = !(x.at? (p ++ [name])).isSome
  fresh : ∀ q c, p ++ [name] <+: q → y.walk q = .ok c → c.IsFresh now
  beside : ∀ q, ¬ p ++ [name] <+: q →
    y.bareAt q = if q = p then (x.bareAt q).map (touch now) else x.bareAt q

variable {now : Int} {p q : Path} {name other : Name} {x y z : Node} {s : Stamp} {es : Entries}

@[simp] theorem stamp_touch (now : Int) (node : Node) :
    (node.touch now).stamp = { node.stamp with mtime := .integer now } := by
  cases node <;> rfl

@[simp] theorem isDirectory_touch (now : Int) (node : Node) :
    (node.touch now).isDirectory = node.isDirectory := by
  cases node <;> rfl

theorem isFresh_newFile (now : Int) (data : Bytes) : (newFile now data).IsFresh now := rfl

theorem isFresh_newDirectory (now : Int) : (newDirectory now).IsFresh now := rfl

theorem IsFresh.touch (h : x.IsFresh now) : (x.touch now).IsFresh now := by
  rw [IsFresh, stamp_touch, isDirectory_touch, h]
  rfl

theorem isFresh_bare : x.bare.IsFresh now ↔ x.IsFresh now := by
  rw [IsFresh, stamp_bare, isDirectory_bare, IsFresh]

theorem isSome_at?_of_isPrefix (hpq : p <+: q) (h : (x.at? q).isSome = true) :
    (x.at? p).isSome = true := by
  obtain ⟨r, rfl⟩ := hpq
  rw [at?_append] at h
  exact Option.isSome_of_isSome_bind h

theorem isSome_at?_of_walk {c : Node} (h : x.walk p = .ok c) : (x.at? p).isSome = true := by
  rw [at?_eq_some.mpr h, Option.isSome_some]

theorem walk_mapEntries (hw : x.walk p = .ok (.directory s es)) (g : Entries → Entries) (now : Int)
    (name : Name) (r : Path) :
    (modify (fun d => (d.mapEntries g).touch now) p x).walk (p ++ name :: r) =
      match Entries.find? (g es) name with
      | none => .error .noEntry
      | some child => child.walk r := by
  rw [walk_modify_append, hw]
  exact walk_directory_cons { s with mtime := .integer now } (g es) name r

theorem walk_insert (hw : x.walk p = .ok (.directory s es)) (name : Name) (new : Node) (now : Int)
    (r : Path) :
    (modify (fun d => (d.mapEntries (Entries.insert · name new)).touch now) p x).walk
      (p ++ name :: r) = new.walk r := by
  rw [walk_mapEntries hw, Entries.find?_insert_self]

theorem flipped_insert (hw : x.walk p = .ok (.directory s es))
    (hfree : Entries.find? es name = none) {new : Node} (hnew : new.IsFresh now)
    (hbelow : ∀ n r c, new.walk (n :: r) ≠ .ok c) :
    Flipped now p name x
      (modify (fun d => (d.mapEntries (Entries.insert · name new)).touch now) p x) where
  directory := ⟨s, es, hw⟩
  flipped := by
    have hthere := walk_insert hw name new now []
    rw [walk_nil] at hthere
    rw [isSome_at?_of_walk hthere, at?_name hw, hfree]
    rfl
  fresh q c hq hc := by
    obtain ⟨r, rfl⟩ := hq
    rw [List.append_assoc, List.singleton_append, walk_insert hw] at hc
    cases r with
    | nil =>
      rw [walk_nil] at hc
      exact Except.ok.inj hc ▸ hnew
    | cons n r => exact absurd hc (hbelow n r c)
  beside q hq := by
    refine bareAt_touch hw _ now fun n => ?_
    by_cases hn : name = n
    · subst hn
      exact .inl hq
    · exact .inr (Entries.find?_insert_of_ne es new hn)

theorem flipped_erase (hw : x.walk p = .ok (.directory s es)) {child : Node}
    (hthere : Entries.find? es name = some child) :
    Flipped now p name x
      (modify (fun d => (d.mapEntries (Entries.erase · name)).touch now) p x) := by
  have hgone : ∀ r,
      (modify (fun d => (d.mapEntries (Entries.erase · name)).touch now) p x).walk
        (p ++ name :: r) = .error .noEntry := by
    intro r
    rw [walk_mapEntries hw, Entries.find?_erase_self]
  refine ⟨⟨s, es, hw⟩, ?_, fun q c hq hc => ?_, fun q hq => bareAt_touch hw _ now fun n => ?_⟩
  · rw [at?_name hw, hthere, at?, hgone]
    rfl
  · obtain ⟨r, rfl⟩ := hq
    rw [List.append_assoc, List.singleton_append, hgone] at hc
    cases hc
  · by_cases hn : name = n
    · subst hn
      exact .inl hq
    · exact .inr (Entries.find?_erase_of_ne es hn)

namespace Flipped

theorem not_below (h : Flipped now p name x y) (hx : (x.at? q).isSome = true)
    (hy : (y.at? q).isSome = true) : ¬ p ++ [name] <+: q := by
  intro hq
  have hflipped := h.flipped
  rw [isSome_at?_of_isPrefix hq hx, isSome_at?_of_isPrefix hq hy] at hflipped
  cases hflipped

theorem isSome_beside (h : Flipped now p name x y) (hq : ¬ p ++ [name] <+: q) :
    (y.at? q).isSome = (x.at? q).isSome := by
  rw [← isSome_bareAt, ← isSome_bareAt, h.beside q hq]
  split
  · exact Option.isSome_map
  · rfl

theorem fresh_of_new (h : Flipped now p name x y) (hx : (x.at? q).isSome = false) {c : Node}
    (hc : y.walk q = .ok c) : c.IsFresh now := by
  by_cases hq : p ++ [name] <+: q
  · exact h.fresh q c hq hc
  · have hbeside := h.isSome_beside hq
    rw [hx, isSome_at?_of_walk hc] at hbeside
    cases hbeside

theorem regrouped_iff (h : Flipped now p name x y) (hq : ¬ p ++ [name] <+: q) :
    Regrouped x y q ↔ q = p := by
  constructor
  · rintro ⟨n, hn⟩
    by_contra hne
    refine hn (h.isSome_beside fun hpre => ?_)
    rcases List.prefix_concat_iff.mp hpre with heq | hpre
    · exact hne (List.append_inj' heq rfl).1.symm
    · exact hq hpre
  · rintro rfl
    refine ⟨name, fun heq => ?_⟩
    have hflipped := h.flipped
    rw [heq] at hflipped
    cases hx : (x.at? (q ++ [name])).isSome <;> rw [hx] at hflipped <;> cases hflipped

theorem trans (hxy : Flipped now p name x y) (hyz : Flipped now q other y z)
    (hpq : p ++ [name] <+: q) : Flipped now p name x z := by
  have hdeeper {r : Path} (hr : ¬ p ++ [name] <+: r) : ¬ q ++ [other] <+: r := fun hpre =>
    hr (hpq.trans ((List.prefix_append q [other]).trans hpre))
  refine ⟨hxy.directory, ?_, fun r c hr hc => ?_, fun r hr => ?_⟩
  · have hshorter : ¬ q ++ [other] <+: p ++ [name] := by
      intro hpre
      have hlength := (hpq.trans (List.prefix_append q [other])).eq_of_length_le hpre.length_le
      have hsame := hpq.length_le
      rw [hlength, List.length_append, List.length_singleton] at hsame
      omega
    rw [hyz.isSome_beside hshorter, hxy.flipped]
  · by_cases hbelow : q ++ [other] <+: r
    · exact hyz.fresh r c hbelow hc
    · -- there it was fresh before, and it is touched at the same time at most
      have hbare := hyz.beside r hbelow
      rw [bareAt_of_walk hc] at hbare
      split at hbare
      · obtain ⟨old, hold, htouch⟩ := Option.map_eq_some_iff.mp hbare.symm
        obtain ⟨d, hd, rfl⟩ := bareAt_eq_some.mp hold
        have hfresh := (isFresh_bare.mpr (hxy.fresh r d hr hd)).touch
        rwa [htouch, isFresh_bare] at hfresh
      · obtain ⟨d, hd, hsame⟩ := bareAt_eq_some.mp hbare.symm
        have hfresh := isFresh_bare.mpr (hxy.fresh r d hr hd)
        rwa [hsame, isFresh_bare] at hfresh
  · have hne : r ≠ q := by
      rintro rfl
      exact hr hpq
    rw [hyz.beside r (hdeeper hr), if_neg hne, hxy.beside r hr]

end Flipped

end MemoryShell.Node
