import MemoryShell.Proofs.Shell.Redirect
import MemoryShell.Proofs.Tree.Nodes
import MemoryShell.Proofs.Volume.Overlay

set_option autoImplicit false

namespace MemoryShell

namespace Node

variable {x y : Node} {top source target : Path} {bound : Nat}

/-- No path through a given one goes further down than a bound. -/
def BoundedBelow (top : Path) (bound : Nat) (x : Node) : Prop :=
  ∀ q, top <+: q → x.entry q ≠ none → q.length ≤ bound

theorem length_le_height {p : Path} (h : x.entry p ≠ none) : p.length ≤ x.height := by
  obtain ⟨e, he⟩ := Option.ne_none_iff_exists'.mp h
  obtain ⟨child, hw, -⟩ := entry_eq_some.mp he
  have hmem : p.length ∈ x.nodes.map fun p => p.1.length :=
    List.mem_map_of_mem (mem_nodes_of_walk hw)
  exact (List.max?_le_iff List.max?_cons').mp le_rfl _ (List.mem_cons_of_mem 0 hmem)

/-- Where a target comes below a path, it is no further down than the source, which lies there. -/
structure Trails (top source target : Path) : Prop where
  start : top <+: source
  short : ∀ r, top <+: target ++ r → target.length ≤ source.length

theorem Trails.append (h : Trails top source target) (name : Name) :
    Trails top (source ++ [name]) (target ++ [name]) where
  start := h.start.trans (List.prefix_append source [name])
  short r hr := by
    rw [List.append_assoc] at hr
    simpa using h.short _ hr

theorem trails_self (h : ¬ source <+: target) : Trails source source target where
  start := List.prefix_refl source
  short r hr := by
    rcases List.prefix_or_prefix_of_prefix hr (List.prefix_append target r) with hpre | hpre
    · exact absurd hpre h
    · exact hpre.length_le

theorem BoundedBelow.length_le_of_above {q : Path} (h : BoundedBelow top bound x)
    (htrails : Trails top source target) (hsource : x.entry source ≠ none) (htop : top <+: q)
    (hq : q <+: target) : q.length ≤ bound := by
  have hbelow : top <+: target ++ [] := by simpa using htop.trans hq
  calc q.length ≤ target.length := hq.length_le
    _ ≤ source.length := htrails.short [] hbelow
    _ ≤ bound := h source htrails.start hsource

theorem BoundedBelow.descended (h : BoundedBelow top bound x) (htrails : Trails top source target)
    (hsource : x.entry source ≠ none) (hdown : Descended target x y) : BoundedBelow top bound y := by
  intro q hq hthere
  rw [hdown.entry] at hthere
  split at hthere
  · rename_i hnew
    exact h.length_le_of_above htrails hsource hq hnew.1
  · exact h q hq hthere

theorem BoundedBelow.overlaid (h : BoundedBelow top bound x) (htrails : Trails top source target)
    (hsource : x.entry source ≠ none) (hlaid : Overlaid source target x y) :
    BoundedBelow top bound y := by
  intro q hq hthere
  by_cases hbelow : target <+: q
  · obtain ⟨r, rfl⟩ := hbelow
    by_cases hold : x.entry (target ++ r) = none
    · have hnew : x.entry (source ++ r) ≠ none := by
        intro hnone
        rw [hlaid.below, hnone, hold] at hthere
        exact hthere rfl
      have hbound := h _ (htrails.start.trans (List.prefix_append source r)) hnew
      have hshort := htrails.short r hq
      rw [List.length_append] at hbound ⊢
      omega
    · exact h _ hq hold
  · rw [hlaid.beside q hbelow] at hthere
    split at hthere
    · rename_i hnew
      exact h.length_le_of_above htrails hsource hq hnew.1
    · exact h q hq hthere

end Node

namespace Commands

open Shell

/-- A shell with an open volume whose root is a directory. -/
structure Ready (s : Shell) : Prop where
  isOpen : s.volume.released = false
  rooted : s.volume.root.isDirectory = true

variable {s : Shell}

theorem outcome_isDirectory (hs : Ready s) (p : Path) :
    ∃ b, outcome (isDirectory p) s = (.ok b, s) ∧
      (b = true ↔ ∃ mode, s.volume.root.entry p = some (.directory mode)) := by
  unfold isDirectory
  rw [outcome_bind, outcome_attempt, outcome_stat_open hs.isOpen]
  cases hw : s.volume.root.walk p with
  | ok child =>
    rw [Node.entry_of_walk hw]
    cases child with
    | file stamp data => exact ⟨false, rfl, by simp [Node.toEntry]⟩
    | directory stamp es => exact ⟨true, rfl, by simp [Node.toEntry]⟩
  | error e =>
    have hmissing : e.isMissing = true := by
      obtain ⟨q, name, rest, above, -, -, -, rfl⟩ := Node.exists_failure_of_walk_eq_error hw
      cases above.isDirectory <;> rfl
    rw [Node.entry_eq_none.mpr ⟨e, hw⟩]
    simp only [hmissing, if_true]
    exact ⟨false, rfl, by simp⟩

theorem readDirectory_cases (hs : Ready s) (p : Path) :
    (∃ e t, outcome (onVolume fun _ => Volume.readDirectory p.text) s =
        (.error (.volume (.file e t)), s)) ∨
      ∃ names mode, outcome (onVolume fun _ => Volume.readDirectory p.text) s = (.ok names, s) ∧
        s.volume.root.entry p = some (.directory mode) ∧
        ∀ n, s.volume.root.entry (p ++ [n]) ≠ none → n ∈ names := by
  rw [outcome_onVolume, Volume.outcome_readDirectory,
    Volume.find_of_parse? hs.isOpen (Path.parse?_text p)]
  cases hw : s.volume.root.walk p with
  | error e => exact .inl ⟨e, p.text, rfl⟩
  | ok child =>
    cases child with
    | file stamp data => exact .inl ⟨.notDirectory, p.text, rfl⟩
    | directory stamp es =>
      refine .inr ⟨Entries.names es, stamp.mode, rfl, Node.entry_of_walk hw, fun n hn => ?_⟩
      rw [Node.entry, Node.at?_name hw] at hn
      rw [← Entries.isSome_find?_iff, Option.isSome_iff_ne_none]
      exact fun hnone => hn (by rw [hnone]; rfl)

theorem onVolume_makeDirectories_cases (hs : Ready s) (p : Path) :
    (∃ e t, outcome (onVolume fun now => Volume.makeDirectories now p.text) s =
        (.error (.volume (.file e t)), s)) ∨
      ∃ w, outcome (onVolume fun now => Volume.makeDirectories now p.text) s =
          (.ok (), { s with volume := w }) ∧
        w.released = false ∧ Node.Descended p s.volume.root w.root := by
  rw [outcome_onVolume]
  rcases Volume.makeDirectories_cases hs.isOpen hs.rooted (Path.parse?_text p) s.clock with
    ⟨e, t, hrun⟩ | ⟨w, hrun, hopen, hdown⟩
  · exact .inl ⟨e, t, by rw [hrun]; rfl⟩
  · exact .inr ⟨w, by rw [hrun]; rfl, hopen, hdown⟩

theorem onVolume_copyFile_cases (hs : Ready s) (source target : Path) :
    (∃ e t, outcome (onVolume fun now => Volume.copyFile now source.text target.text) s =
        (.error (.volume (.file e t)), s)) ∨
      ∃ w, outcome (onVolume fun now => Volume.copyFile now source.text target.text) s =
          (.ok (), { s with volume := w }) ∧
        w.released = false ∧ Node.Overlaid source target s.volume.root w.root ∧
        s.volume.root.entry source ≠ none ∧ target ≠ [] := by
  rw [outcome_onVolume]
  rcases Volume.copyFile_cases hs.isOpen hs.rooted s.clock source target with
    ⟨e, t, hrun⟩ | ⟨w, above, name, mode, data, rfl, hrun, hopen, hfile, habove, hentry⟩
  · exact .inl ⟨e, t, by rw [hrun]; rfl⟩
  · refine .inr ⟨w, by rw [hrun]; rfl, hopen, ?_, by rw [hfile]; simp, by simp⟩
    exact Node.overlaid_file hfile habove hentry

variable {α β : Type} {top source target : Path} {bound levels : Nat}

/-- A shell in which nothing below a path is further down than a bound. -/
structure Tame (top : Path) (bound : Nat) (s : Shell) : Prop extends Ready s where
  bounded : Node.BoundedBelow top bound s.volume.root

/-- A program with a bound on its levels does not reach it, and comes to the same with any higher
one. -/
structure Settled (top : Path) (bound levels : Nat) (f : Nat → ShellM α) (s : Shell) : Prop where
  ends : (outcome (f levels) s).1 ≠ .error (.volume .endless)
  stays : ∀ k, levels ≤ k → outcome (f k) s = outcome (f levels) s
  tame : Tame top bound (outcome (f levels) s).2

namespace Settled

theorem of_ok {x : ShellM α} {t : Shell} {a : α} (h : outcome x s = (.ok a, t))
    (ht : Tame top bound t) : Settled top bound levels (fun _ => x) s :=
  ⟨by rw [h]; simp, fun _ _ => rfl, by rw [h]; exact ht⟩

theorem of_file_error {x : ShellM α} {e : Errno} {path : Text} (hs : Tame top bound s)
    (h : outcome x s = (.error (.volume (.file e path)), s)) :
    Settled top bound levels (fun _ => x) s :=
  ⟨by rw [h]; simp, fun _ _ => rfl, by rw [h]; exact hs⟩

theorem bind {f : Nat → ShellM α} {g : Nat → α → ShellM β} (hf : Settled top bound levels f s)
    (hg : ∀ a t, outcome (f levels) s = (.ok a, t) → Tame top bound t →
      Settled top bound levels (fun k => g k a) t) :
    Settled top bound levels (fun k => f k >>= g k) s := by
  rcases hrun : outcome (f levels) s with ⟨e | a, t⟩
  · have htame := hf.tame
    have hends := hf.ends
    rw [hrun] at htame hends
    have hfails : ∀ k, levels ≤ k → outcome (f k >>= g k) s = (.error e, t) := fun k hk =>
      outcome_bind_error ((hf.stays k hk).trans hrun) _
    refine ⟨?_, fun k hk => ?_, ?_⟩
    · rw [hfails levels le_rfl]
      simpa using hends
    · rw [hfails k hk, hfails levels le_rfl]
    · rw [hfails levels le_rfl]
      exact htame
  · have htame := hf.tame
    rw [hrun] at htame
    have hgoes : ∀ k, levels ≤ k → outcome (f k >>= g k) s = outcome (g k a) t := fun k hk =>
      outcome_bind_ok ((hf.stays k hk).trans hrun) _
    obtain ⟨hends, hstays, hafter⟩ := hg a t hrun htame
    refine ⟨?_, fun k hk => ?_, ?_⟩
    · rw [hgoes levels le_rfl]
      exact hends
    · rw [hgoes k hk, hgoes levels le_rfl, hstays k hk]
    · rw [hgoes levels le_rfl]
      exact hafter

end Settled

theorem settled_isDirectory (hs : Tame top bound s) (p : Path) :
    Settled top bound levels (fun _ => isDirectory p) s := by
  obtain ⟨b, hrun, -⟩ := outcome_isDirectory hs.toReady p
  exact .of_ok hrun hs

theorem settled_readDirectory (hs : Tame top bound s) (p : Path) :
    Settled top bound levels (fun _ => onVolume fun _ => Volume.readDirectory p.text) s := by
  rcases readDirectory_cases hs.toReady p with ⟨e, t, hrun⟩ | ⟨names, mode, hrun, -, -⟩
  · exact .of_file_error hs hrun
  · exact .of_ok hrun hs

theorem settled_makeDirectories (hs : Tame top bound s) (htrails : Node.Trails top source target)
    (hsource : s.volume.root.entry source ≠ none) :
    Settled top bound levels
      (fun _ => onVolume fun now => Volume.makeDirectories now target.text) s := by
  rcases onVolume_makeDirectories_cases hs.toReady target with
    ⟨e, t, hrun⟩ | ⟨w, hrun, hopen, hdown⟩
  · exact .of_file_error hs hrun
  · refine .of_ok hrun ⟨⟨hopen, ?_⟩, hs.bounded.descended htrails hsource hdown⟩
    exact hdown.isDirectory hs.rooted

theorem settled_copyFile (hs : Tame top bound s) (htrails : Node.Trails top source target) :
    Settled top bound levels
      (fun _ => onVolume fun now => Volume.copyFile now source.text target.text) s := by
  rcases onVolume_copyFile_cases hs.toReady source target with
    ⟨e, t, hrun⟩ | ⟨w, hrun, hopen, hlaid, hsource, hne⟩
  · exact .of_file_error hs hrun
  · refine .of_ok hrun ⟨⟨hopen, ?_⟩, hs.bounded.overlaid htrails hsource hlaid⟩
    exact hlaid.isDirectory hne hs.rooted

theorem settled_copyEach (htrails : Node.Trails top source target)
    (hcopy : ∀ (name : Name) {t : Shell}, Tame top bound t →
      t.volume.root.entry (source ++ [name]) ≠ none →
        Settled top bound levels (fun k => copyTree k (source ++ [name]) (target ++ [name])) t)
    (names : List Name) (hs : Tame top bound s) :
    Settled top bound levels (fun k => copyTree.copyEach (copyTree k) source target names) s := by
  induction names generalizing s with
  | nil => exact .of_ok rfl hs
  | cons name names ih =>
    refine (settled_isDirectory hs (source ++ [name])).bind fun b t hrun ht => ?_
    obtain ⟨b', hseen, hdirectory⟩ := outcome_isDirectory hs.toReady (source ++ [name])
    obtain ⟨hb, rfl⟩ := Prod.mk.inj (hseen.symm.trans hrun)
    obtain rfl := Except.ok.inj hb
    cases b' with
    | true =>
      obtain ⟨mode, hmode⟩ := hdirectory.mp rfl
      exact (hcopy name hs (by rw [hmode]; simp)).bind fun _ _ _ hu => ih hu
    | false =>
      exact (settled_copyFile hs (htrails.append name)).bind fun _ _ _ hu => ih hu

theorem settled_copyTree (htrails : Node.Trails top source target) (hs : Tame top bound s)
    (hsource : s.volume.root.entry source ≠ none) (hlevels : bound < source.length + levels) :
    Settled top bound levels (fun k => copyTree k source target) s := by
  induction levels generalizing source target s with
  | zero =>
    have hbound := hs.bounded source htrails.start hsource
    omega
  | succ levels ih =>
    have hbody : Settled top bound levels (fun k => copyTree (k + 1) source target) s := by
      refine (settled_makeDirectories hs htrails hsource).bind fun _ t _ ht => ?_
      refine (settled_readDirectory ht source).bind fun names u _ hu => ?_
      refine settled_copyEach htrails (fun name {v} hv hname => ?_) names hu
      exact ih (htrails.append name) hv hname (by simp; omega)
    refine ⟨hbody.ends, fun k hk => ?_, hbody.tame⟩
    obtain ⟨k, rfl⟩ := Nat.exists_eq_add_of_le' (Nat.one_le_of_lt hk)
    exact hbody.stays k (by omega)

end Commands

end MemoryShell
