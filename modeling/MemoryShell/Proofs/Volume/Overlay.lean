import MemoryShell.Proofs.Volume.Refinement
import MemoryShell.Proofs.Volume.Writing

set_option autoImplicit false

namespace MemoryShell

namespace FlatEntry

def usualMode : FlatEntry → Nat
  | .directory _ => Stamp.directoryMode
  | .file _ _ => Stamp.fileMode

def overlay : Option FlatEntry → Option FlatEntry → Option FlatEntry
  | none, old => old
  | some e, none => some (e.withMode e.usualMode)
  | some e, some old => some (e.withMode old.mode)

theorem overlay_overlay (new old : Option FlatEntry) :
    overlay new (overlay new old) = overlay new old := by
  rcases new with _ | ⟨m⟩ | ⟨m, data⟩ <;> rcases old with _ | ⟨n⟩ | ⟨n, data'⟩ <;> rfl

end FlatEntry

namespace Node

open FlatEntry

variable {x y z : Node} {source target p q : Path} {name : Name}

/-- A part of a tree was laid over another one. -/
structure Overlaid (source target : Path) (x y : Node) : Prop where
  below : ∀ r, y.entry (target ++ r) = overlay (x.entry (source ++ r)) (x.entry (target ++ r))
  beside : ∀ q, ¬ target <+: q → y.entry q =
    if q <+: target ∧ x.entry q = none then some (.directory Stamp.directoryMode) else x.entry q

/-- What stands under some names was laid over what stands under these names in another directory. -/
structure OverlaidAt (names : List Name) (source target : Path) (x y : Node) : Prop where
  below : ∀ n r, y.entry (target ++ n :: r) =
    if n ∈ names then overlay (x.entry (source ++ n :: r)) (x.entry (target ++ n :: r))
    else x.entry (target ++ n :: r)
  beside : ∀ q, (∀ n r, q ≠ target ++ n :: r) → y.entry q = x.entry q

/-- Missing directories down to a path were made. -/
structure Descended (target : Path) (x y : Node) : Prop where
  entry : ∀ q, y.entry q =
    if q <+: target ∧ x.entry q = none then some (.directory Stamp.directoryMode) else x.entry q
  there : ∃ mode, y.entry target = some (.directory mode)

theorem entry_ne_none_of_isPrefix (hqp : q <+: p) (h : x.entry p ≠ none) : x.entry q ≠ none := by
  obtain ⟨r, rfl⟩ := hqp
  rw [entry_append] at h
  intro hq
  rw [entry, Option.map_eq_none_iff] at hq
  exact h (by rw [hq]; rfl)

theorem isDirectory_iff_entry : x.isDirectory = true ↔ ∃ mode, x.entry [] = some (.directory mode) := by
  cases x <;> simp [isDirectory, toEntry]

/-- Neither of two paths lies at or below the other. -/
structure Apart (p q : Path) : Prop where
  left : ¬ p <+: q
  right : ¬ q <+: p

theorem Apart.append (h : Apart p q) (r s : Path) : Apart (p ++ r) (q ++ s) := by
  have hnot {a b : Path} (hab : ¬ a <+: b ∧ ¬ b <+: a) (r s : Path) : ¬ a ++ r <+: b ++ s := by
    intro hpre
    have ha : a <+: b ++ s := (List.prefix_append a r).trans hpre
    exact (List.prefix_or_prefix_of_prefix ha (List.prefix_append b s)).elim hab.1 hab.2
  exact ⟨hnot ⟨h.left, h.right⟩ r s, hnot ⟨h.right, h.left⟩ s r⟩

theorem Apart.left_append (h : Apart p q) (r : Path) : Apart (p ++ r) q := by
  simpa using h.append r []

theorem Overlaid.entry_of_apart (h : Overlaid source target x y) (hp : Apart p target) :
    y.entry p = x.entry p := by
  rw [h.beside p hp.right, if_neg fun hpre => hp.left hpre.1]

theorem Overlaid.isDirectory (h : Overlaid source target x y) (hne : target ≠ [])
    (hx : x.isDirectory = true) : y.isDirectory = true := by
  obtain ⟨mode, hmode⟩ := isDirectory_iff_entry.mp hx
  refine isDirectory_iff_entry.mpr ⟨mode, ?_⟩
  rw [h.beside [] fun hpre => hne (List.prefix_nil.mp hpre), hmode, if_neg (by simp)]

theorem Descended.isDirectory (h : Descended target x y) (hx : x.isDirectory = true) :
    y.isDirectory = true := by
  obtain ⟨mode, hmode⟩ := isDirectory_iff_entry.mp hx
  refine isDirectory_iff_entry.mpr ⟨mode, ?_⟩
  rw [h.entry, hmode, if_neg (by simp)]

theorem overlaid_file {mode : Nat} {data : Bytes} {above : Path}
    (hfile : x.entry source = some (.file mode data)) (habove : x.entry above ≠ none)
    (h : ∀ q, y.entry q =
      if q = above ++ [name] then overlay (x.entry source) (x.entry (above ++ [name]))
      else x.entry q) : Overlaid source (above ++ [name]) x y where
  below r := by
    cases r with
    | nil => rw [List.append_nil, List.append_nil, h, if_pos rfl]
    | cons n r =>
      have hnone : x.entry (source ++ n :: r) = none := by
        by_contra hsome
        obtain ⟨m, hm⟩ := exists_directory_of_entry (Option.isSome_iff_ne_none.mpr hsome)
        rw [hfile] at hm
        cases hm
      rw [h, if_neg (by simp), hnone]
      rfl
  beside q hq := by
    have hne : q ≠ above ++ [name] := fun heq => hq (heq ▸ List.prefix_refl _)
    rw [h, if_neg hne, if_neg]
    rintro ⟨hpre, hnone⟩
    have hqa : q <+: above := (List.prefix_concat_iff.mp hpre).resolve_left hne
    exact entry_ne_none_of_isPrefix hqa habove hnone

theorem overlaidAt_nil (source target : Path) (x : Node) : OverlaidAt [] source target x x where
  below n r := by simp
  beside q _ := rfl

theorem OverlaidAt.cons {names : List Name} (hapart : Apart source target)
    (hthere : x.entry target ≠ none) (h : Overlaid (source ++ [name]) (target ++ [name]) x y)
    (hrest : OverlaidAt names source target y z) :
    OverlaidAt (name :: names) source target x z where
  below n r := by
    have hsource : y.entry (source ++ n :: r) = x.entry (source ++ n :: r) :=
      h.entry_of_apart (hapart.append _ _)
    have htarget : y.entry (target ++ n :: r) =
        if n = name then overlay (x.entry (source ++ n :: r)) (x.entry (target ++ n :: r))
        else x.entry (target ++ n :: r) := by
      by_cases hn : n = name
      · subst hn
        simpa using h.below r
      · rw [if_neg hn, h.beside _ (by simpa using Ne.symm hn), if_neg (by simp [hn])]
    rw [hrest.below, hsource, htarget]
    by_cases hn : n = name <;> by_cases hmem : n ∈ names <;> simp [hn, hmem, overlay_overlay]
  beside q hq := by
    have hbelow : ¬ target ++ [name] <+: q := by
      rintro ⟨r, rfl⟩
      exact hq name r (by simp)
    rw [hrest.beside q hq, h.beside q hbelow, if_neg]
    rintro ⟨hpre, hnone⟩
    have hqt : q <+: target := by
      refine (List.prefix_concat_iff.mp hpre).resolve_left fun heq => hbelow ?_
      rw [heq]
    exact entry_ne_none_of_isPrefix hqt hthere hnone

theorem overlaid_directory {mode : Nat} {names : List Name} (hapart : Apart source target)
    (hsource : x.entry source = some (.directory mode))
    (hnames : ∀ n, x.entry (source ++ [n]) ≠ none → n ∈ names) (hdown : Descended target x y)
    (hat : OverlaidAt names source target y z) : Overlaid source target x z where
  below r := by
    cases r with
    | nil =>
      rw [List.append_nil, List.append_nil, hsource, hat.beside target (by simp)]
      cases hold : x.entry target with
      | none =>
        rw [hdown.entry, if_pos ⟨List.prefix_refl target, hold⟩]
        rfl
      | some e =>
        obtain ⟨m, hm⟩ := hdown.there
        have hkept := hdown.entry target
        rw [hold, if_neg (by simp), hm] at hkept
        rw [hm, ← Option.some.inj hkept]
        rfl
    | cons n r =>
      have hkept : y.entry (source ++ n :: r) = x.entry (source ++ n :: r) := by
        rw [hdown.entry, if_neg fun h => (hapart.left_append _).left h.1]
      have hold : y.entry (target ++ n :: r) = x.entry (target ++ n :: r) := by
        rw [hdown.entry, if_neg fun h => absurd h.1.length_le (by simp)]
      rw [hat.below, hkept, hold]
      split
      · rfl
      · rename_i hn
        have hnone : x.entry (source ++ n :: r) = none := by
          by_contra hsome
          refine hn (hnames n (entry_ne_none_of_isPrefix ?_ hsome))
          exact ⟨r, by simp⟩
        rw [hnone]
        rfl
  beside q hq := by
    rw [hat.beside q fun n r heq => hq ⟨n :: r, heq.symm⟩, hdown.entry]

end Node

namespace Volume

open FlatEntry

variable {v : Volume} {p : Path}

theorem makeDirectories_cases (hopen : v.released = false) (hroot : v.root.isDirectory = true)
    {spelling : Text} (hp : Path.parse? spelling = some p) (now : Int) :
    (∃ e t, outcome (makeDirectories now spelling) v = (.error (.file e t), v)) ∨
      ∃ w, outcome (makeDirectories now spelling) v = (.ok (), w) ∧ w.released = false ∧
        Node.Descended p v.root w.root := by
  have hm := Node.depicts_pathMap v.root hroot
  have hcases := makeBelow_cases now spelling p hm
    ((PathMap.isDirectory_iff _ []).mpr (PathMap.root _))
  rw [List.nil_append] at hcases
  have hrun : outcome (makeDirectories now spelling) v = outcome (makeBelow now spelling [] p) v := by
    rw [outcome_makeDirectories, if_neg (by simp [hopen]), hp]
  rw [hrun]
  rcases hcases with ⟨-, hfails⟩ | ⟨hclear, w, hmade, hrel, hmap⟩
  · exact .inl ⟨_, _, hfails⟩
  · refine .inr ⟨w, hmade, hrel.trans hopen, ?_⟩
    have hentry : ∀ q, w.root.entry q =
        if q <+: p ∧ v.root.entry q = none then some (.directory Stamp.directoryMode)
        else v.root.entry q := fun q => by
      rw [← hmap q, PathMap.entry_withDirectories hclear, hm q]
    refine ⟨hentry, ?_⟩
    rw [hm.isBlocked] at hclear
    cases hw : v.root.walk p with
    | error e =>
      rw [hentry, if_pos ⟨List.prefix_refl p, Node.entry_eq_none.mpr ⟨e, hw⟩⟩]
      exact ⟨_, rfl⟩
    | ok child =>
      cases child with
      | file s data => simp [hw, Node.isDirectory] at hclear
      | directory s es =>
        rw [hentry, Node.entry_of_walk hw, if_neg (by simp)]
        exact ⟨_, rfl⟩

theorem fileData_text_cases (hopen : v.released = false) (p : Path) :
    (∃ e t, v.fileData p.text = .error (.file e t)) ∨
      ∃ mode data, v.fileData p.text = .ok data ∧ v.root.entry p = some (.file mode data) := by
  rw [fileData, find_of_parse? hopen (Path.parse?_text p)]
  cases hw : v.root.walk p with
  | error e => exact .inl ⟨e, p.text, rfl⟩
  | ok child =>
    cases child with
    | directory s es => exact .inl ⟨_, _, rfl⟩
    | file s data =>
      simp only [mapError_ok, demanded]
      by_cases h : s.allows Access.read.flag
      · exact .inr ⟨s.mode, data, by simp [h, Except.map], Node.entry_of_walk hw⟩
      · exact .inl ⟨.accessDenied, p.text, by simp [h, Except.map]⟩

theorem copyFile_cases (hopen : v.released = false) (hroot : v.root.isDirectory = true) (now : Int)
    (source target : Path) :
    (∃ e t, outcome (copyFile now source.text target.text) v = (.error (.file e t), v)) ∨
      ∃ w above name mode data, target = above ++ [name] ∧
        outcome (copyFile now source.text target.text) v = (.ok (), w) ∧ w.released = false ∧
        v.root.entry source = some (.file mode data) ∧ v.root.entry above ≠ none ∧
        ∀ q, w.root.entry q =
          if q = target then overlay (v.root.entry source) (v.root.entry target)
          else v.root.entry q := by
  rw [outcome_copyFile]
  rcases fileData_text_cases hopen source with ⟨e, t, hread⟩ | ⟨mode, data, hread, hsource⟩
  · rw [hread]
    exact .inl ⟨e, t, rfl⟩
  · rw [hread]
    simp only
    cases hwritable : v.writable target.text with
    | error e =>
      obtain ⟨errno, t, rfl⟩ := writable_failure hopen (Path.parse?_text target) hwritable
      rw [outcome_writeFile, hwritable]
      exact .inl ⟨errno, t, rfl⟩
    | ok slot =>
      have haccepts := accepts_of_writable hwritable
      obtain ⟨w, hrun, hrel, hentry⟩ :=
        outcome_writeFile_of_accepts hopen hroot haccepts now .replace data
      obtain ⟨above, name, s, es, rfl, hw, -⟩ := exists_directory_of_accepts hroot haccepts
      have habove : v.root.entry above ≠ none := by
        rw [Node.entry_of_walk hw]
        simp
      have hlaid : some (FlatEntry.file (v.fileAt (above ++ [name])).1
            (WriteMode.replace.combine data (v.fileAt (above ++ [name])).2)) =
          overlay (v.root.entry source) (v.root.entry (above ++ [name])) := by
        -- a file keeps its mode, and no directory is written to
        rw [fileAt, hsource]
        cases hold : v.root.entry (above ++ [name]) with
        | none => rfl
        | some e =>
          cases e with
          | file m old => rfl
          | directory m =>
            rw [accepts, hold] at haccepts
            cases haccepts
      refine .inr ⟨w, above, name, mode, data, rfl, hrun, hrel, hsource, habove, fun q => ?_⟩
      rw [hentry, hlaid]

end Volume

end MemoryShell
