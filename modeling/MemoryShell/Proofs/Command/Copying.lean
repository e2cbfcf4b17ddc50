import MemoryShell.Proofs.Command.Levels
import MemoryShell.Proofs.Path.Below

/-!
Copying a directory lays it over the target. The source is read while the target is written, level by
level; as long as neither lies in the other, nothing that is still to be read has been written to. A
target in the source is refused before anything is done, and copying into any other one comes to an end.
-/

set_option autoImplicit false

namespace MemoryShell.Commands

open Shell

variable {s t u : Shell} {source target : Path} {name : Name}

/-- Between two shells a part of the tree was laid over another one, and nothing else was done. -/
structure Laid (source target : Path) (s t : Shell) : Prop where
  volume : t = { s with volume := t.volume }
  ready : Ready t
  overlaid : Node.Overlaid source target s.volume.root t.volume.root

/-- Between two shells what stands under some names was laid over a directory, and nothing else was
done. -/
structure LaidAt (names : List Name) (source target : Path) (s t : Shell) : Prop where
  volume : t = { s with volume := t.volume }
  ready : Ready t
  overlaid : Node.OverlaidAt names source target s.volume.root t.volume.root

theorem LaidAt.cons {names : List Name} (hapart : Node.Apart source target)
    (hthere : s.volume.root.entry target ≠ none)
    (h : Laid (source ++ [name]) (target ++ [name]) s t) (hrest : LaidAt names source target t u) :
    LaidAt (name :: names) source target s u where
  volume := by rw [hrest.volume, h.volume]
  ready := hrest.ready
  overlaid := hrest.overlaid.cons hapart hthere h.overlaid

theorem laid_copyFile (hs : Ready s)
    (hrun : outcome (onVolume fun now => Volume.copyFile now source.text target.text) s =
      (.ok (), t)) : Laid source target s t := by
  rcases onVolume_copyFile_cases hs source target with
    ⟨e, path, hfails⟩ | ⟨w, hcopied, hopen, hlaid, -, hne⟩
  · rw [hfails] at hrun
    cases hrun
  · rw [hcopied] at hrun
    obtain ⟨-, rfl⟩ := Prod.mk.inj hrun
    exact ⟨rfl, ⟨hopen, hlaid.isDirectory hne hs.rooted⟩, hlaid⟩

theorem laidAt_copyEach {copyDirectory : Path → Path → ShellM Unit}
    (hapart : Node.Apart source target)
    (hcopy : ∀ (name : Name) {s t : Shell}, Ready s →
      outcome (copyDirectory (source ++ [name]) (target ++ [name])) s = (.ok (), t) →
        Laid (source ++ [name]) (target ++ [name]) s t)
    (names : List Name) (hs : Ready s) (hthere : s.volume.root.entry target ≠ none)
    (hrun : outcome (copyTree.copyEach copyDirectory source target names) s = (.ok (), t)) :
    LaidAt names source target s t := by
  induction names generalizing s with
  | nil =>
    obtain ⟨-, rfl⟩ := Prod.mk.inj hrun
    exact ⟨rfl, hs, Node.overlaidAt_nil source target _⟩
  | cons name names ih =>
    rw [copyTree.copyEach] at hrun
    obtain ⟨b, hseen, -⟩ := outcome_isDirectory hs (source ++ [name])
    rw [outcome_bind_ok hseen] at hrun
    obtain ⟨u, hlaid, hrest⟩ : ∃ u, Laid (source ++ [name]) (target ++ [name]) s u ∧
        outcome (copyTree.copyEach copyDirectory source target names) u = (.ok (), t) := by
      cases b with
      | true =>
        simp only [if_true] at hrun
        obtain ⟨_, u, hone, hrest⟩ := ok_of_outcome_bind hrun
        exact ⟨u, hcopy name hs hone, hrest⟩
      | false =>
        simp only [Bool.false_eq_true, if_false] at hrun
        obtain ⟨_, u, hone, hrest⟩ := ok_of_outcome_bind hrun
        exact ⟨u, laid_copyFile hs hone, hrest⟩
    have hkept : u.volume.root.entry target ≠ none := by
      have hnot : ¬ target ++ [name] <+: target := fun h => absurd h.length_le (by simp)
      rw [hlaid.overlaid.beside target hnot, if_neg fun h => hthere h.2]
      exact hthere
    exact (ih hlaid.ready hkept hrest).cons hapart hthere hlaid

theorem laid_copyTree (levels : Nat) (hapart : Node.Apart source target) (hs : Ready s)
    (hrun : outcome (copyTree levels source target) s = (.ok (), t)) : Laid source target s t := by
  induction levels generalizing source target s t with
  | zero => cases hrun
  | succ levels ih =>
    rw [copyTree] at hrun
    rcases onVolume_makeDirectories_cases hs target with
      ⟨e, path, hfails⟩ | ⟨w, hmade, hopen, hdown⟩
    · rw [outcome_bind_error hfails] at hrun
      cases hrun
    · rw [outcome_bind_ok hmade] at hrun
      have hready : Ready { s with volume := w } := ⟨hopen, hdown.isDirectory hs.rooted⟩
      have hkept : ∀ r, w.root.entry (source ++ r) = s.volume.root.entry (source ++ r) := fun r => by
        rw [hdown.entry, if_neg fun h => (hapart.left_append r).left h.1]
      rcases readDirectory_cases hready source with
        ⟨e, path, hfails⟩ | ⟨names, mode, hread, hdirectory, hnames⟩
      · rw [outcome_bind_error hfails] at hrun
        cases hrun
      · rw [outcome_bind_ok hread] at hrun
        obtain ⟨m, hm⟩ := hdown.there
        have hat := laidAt_copyEach hapart (fun name => ih (hapart.append [name] [name])) names hready
          (by rw [hm]; simp) hrun
        have hsource : s.volume.root.entry source = some (.directory mode) := by
          have hsame := hkept []
          rw [List.append_nil] at hsame
          exact hsame.symm.trans hdirectory
        have hall : ∀ n, s.volume.root.entry (source ++ [n]) ≠ none → n ∈ names := fun n hn =>
          hnames n (hkept [n] ▸ hn)
        exact ⟨hat.volume, hat.ready,
          Node.overlaid_directory hapart hsource hall hdown hat.overlaid⟩

theorem outcome_copyOne_directory {mode : Nat} (hs : Ready s) (hne : source ≠ [])
    (hsource : s.volume.root.entry source = some (.directory mode)) (target : Path) :
    (source <+: target → outcome (copyOne true source target) s =
        (.ok (some ("cp: cannot copy a directory, '" ++ source.base ++ "', into itself")), s)) ∧
      (¬ source <+: target → outcome (copyOne true source target) s =
        outcome ((fun _ => none) <$> copyTree (s.volume.root.height + 1) source target) s) := by
  obtain ⟨stamp, es, hw, -⟩ := Node.entry_eq_directory.mp hsource
  have hstat : outcome (stat source) s =
      (.ok (Volume.Stat.ofNode source (.directory stamp es)), s) := by
    rw [outcome_stat_open hs.isOpen, hw]
  have hkind : (Volume.Stat.ofNode source (.directory stamp es)).kind ≠ .file := by
    simp [Volume.Stat.ofNode]
  have hlies : liesIn source target = true ↔ source <+: target := liesIn_iff hne
  unfold copyOne
  rw [outcome_bind_ok hstat]
  simp only [hkind, if_false, Bool.not_true, Bool.false_eq_true]
  constructor
  · intro hin
    rw [if_pos (hlies.mpr hin)]
    rfl
  · intro hout
    rw [if_neg fun h => hout (hlies.mp h), map_eq_pure_bind]
    rfl

/-- A directory other than the root is refused as a source just in case that the target is the directory
or lies below it, which the spellings tell, and then nothing is done. Copying to any other target comes
to an end: any bound on the levels above the height of the tree comes to the same and is not reached. If
neither lies in the other and nothing goes wrong, the source is laid over the target, and stays as it
is. -/
theorem copying_overlays_target {mode : Nat} (hopen : s.volume.released = false)
    (hne : source ≠ []) (hsource : s.volume.root.entry source = some (.directory mode))
    (target : Path) :
    (source <+: target ↔ target.text = source.text ∨ source.text ++ [slash] <+: target.text) ∧
      ((∃ message, (outcome (copyOne true source target) s).1 = .ok (some message)) ↔
        source <+: target) ∧
      (source <+: target → outcome (copyOne true source target) s =
        (.ok (some ("cp: cannot copy a directory, '" ++ source.base ++ "', into itself")), s)) ∧
      (¬ source <+: target →
        (outcome (copyOne true source target) s).1 ≠ .error (.volume .endless) ∧
        ∀ levels, s.volume.root.height < levels →
          outcome (copyOne true source target) s =
            outcome ((fun _ => none) <$> copyTree levels source target) s) ∧
      (¬ source <+: target → ¬ target <+: source →
        ∀ t, outcome (copyOne true source target) s = (.ok none, t) →
          t = { s with volume := t.volume } ∧ t.volume.released = false ∧
          Node.Overlaid source target s.volume.root t.volume.root ∧
          ∀ r, t.volume.root.entry (source ++ r) = s.volume.root.entry (source ++ r)) := by
  have hrooted : s.volume.root.isDirectory = true := by
    obtain ⟨name, rest, rfl⟩ := List.exists_cons_of_ne_nil hne
    have hthere : (s.volume.root.entry ([] ++ name :: rest)).isSome = true :=
      Option.isSome_iff_exists.mpr ⟨_, hsource⟩
    exact Node.isDirectory_iff_entry.mpr (Node.exists_directory_of_entry hthere)
  have hs : Ready s := ⟨hopen, hrooted⟩
  obtain ⟨hrefused, hcopied⟩ := outcome_copyOne_directory hs hne hsource target
  refine ⟨Path.prefix_iff_text hne, ⟨?_, fun hin => ⟨_, by rw [hrefused hin]⟩⟩, hrefused, ?_, ?_⟩
  · rintro ⟨message, hmessage⟩
    by_contra hout
    rw [hcopied hout, outcome_map] at hmessage
    obtain ⟨_, -, hnone⟩ := ok_of_map_ok hmessage
    cases hnone
  · intro hout
    have htame : Tame source s.volume.root.height s := ⟨hs, fun q _ hq => Node.length_le_height hq⟩
    have hsettled : Settled source s.volume.root.height (s.volume.root.height + 1)
        (fun k => copyTree k source target) s :=
      settled_copyTree (Node.trails_self hout) htame (by rw [hsource]; simp) (by omega)
    rw [hcopied hout]
    refine ⟨?_, fun levels hlevels => ?_⟩
    · rw [outcome_map]
      exact fun hfails => hsettled.ends (error_of_map_error hfails)
    · rw [outcome_map, outcome_map, hsettled.stays levels hlevels]
  · intro hout hin t hrun
    have hapart : Node.Apart source target := ⟨hout, hin⟩
    rw [hcopied hout, map_eq_pure_bind] at hrun
    obtain ⟨_, u, htree, hpure⟩ := ok_of_outcome_bind hrun
    obtain ⟨-, rfl⟩ := Prod.mk.inj hpure
    have hlaid := laid_copyTree _ hapart hs htree
    exact ⟨hlaid.volume, hlaid.ready.isOpen, hlaid.overlaid, fun r =>
      hlaid.overlaid.entry_of_apart (hapart.left_append r)⟩

/-- A directory with a file in it is copied to where nothing is, under a name that goes on from its own,
but not to below itself. -/
theorem copying_overlays_target_missing :
    let a : Name := ⟨"a", by decide⟩
    let ab : Name := ⟨"ab", by decide⟩
    let f : Name := ⟨"f", by decide⟩
    let root : Node := .directory (.fresh Stamp.directoryMode 0)
      [(a, .directory (.fresh 0o700 0) [(f, .file (.fresh 0o600 0) [1])])]
    ∃ first s t : Shell, build 0 .usual builtins = .ok first ∧
      s = { first with volume := ⟨root, false⟩ } ∧
      outcome (copyOne true [a] [a, f]) s =
        (.ok (some "cp: cannot copy a directory, 'a', into itself"), s) ∧
      outcome (copyOne true [a] [ab, a]) s = (.ok none, t) ∧
      Node.Overlaid [a] [ab, a] root t.volume.root ∧
      t.volume.root.entry [ab, a, f] = some (.file Stamp.fileMode [1]) ∧
      t.volume.root.entry [a, f] = some (.file 0o600 [1]) := by
  intro a ab f root
  obtain ⟨first, hfirst⟩ : ∃ first, build 0 .usual builtins = .ok first := ⟨_, rfl⟩
  let s : Shell := { first with volume := ⟨root, false⟩ }
  obtain ⟨t, ht⟩ : ∃ t, outcome (copyOne true [a] [ab, a]) s = (.ok none, t) := by
    have hdone : (outcome (copyOne true [a] [ab, a]) s).1.toOption = some none := by
      obtain rfl := Except.ok.inj hfirst
      decide +kernel
    rcases hrun : outcome (copyOne true [a] [ab, a]) s with ⟨e | r, t⟩
    · rw [hrun] at hdone
      cases hdone
    · rw [hrun] at hdone
      exact ⟨t, by rw [Option.some.inj hdone]⟩
  have hsource : s.volume.root.entry [a] = some (.directory 0o700) := rfl
  obtain ⟨-, -, hrefused, -, -⟩ := copying_overlays_target (s := s) rfl (by simp) hsource [a, f]
  obtain ⟨-, -, -, -, hcopied⟩ := copying_overlays_target (s := s) rfl (by simp) hsource [ab, a]
  obtain ⟨-, -, hlaid, hkept⟩ := hcopied (by decide) (by decide) t ht
  refine ⟨first, s, t, hfirst, rfl, ?_, ht, hlaid, ?_, ?_⟩
  · exact hrefused (by decide)
  · exact (hlaid.below [f]).trans rfl
  · exact (hkept [f]).trans rfl

end MemoryShell.Commands
