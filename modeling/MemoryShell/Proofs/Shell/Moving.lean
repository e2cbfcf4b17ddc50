import MemoryShell.Proofs.Path.Joining
import MemoryShell.Proofs.Shell.Whereabouts

/-!
Moving in steps. What is seen from where a first spelling leads is seen from where it starts, along the
two spellings joined. So a shell that moves twice could have moved once, without the directory between
having been left in any other way than by its spelling.
-/

set_option autoImplicit false

namespace MemoryShell

namespace Shell

open Commands

theorem LeadsTo.outcome_eq {s : Shell} {spelling : Text} {p : Path} (h : LeadsTo s spelling p) :
    outcome (changeDirectory spelling) s = (.ok p, { s with directory := p.text }) := by
  rcases changeDirectory_cases spelling s with ⟨q, hq, hrun⟩ | ⟨hnone, -⟩
  · have hsame : q = p := Option.some.inj (hq.1.symm.trans h.1)
    rw [hrun, hsame]
  · exact absurd h (hnone p)

theorem changeDirectory_joined {s t u : Shell} {first further : Text} {p q : Path}
    (hfirst : outcome (changeDirectory first) s = (.ok p, t))
    (hfurther : outcome (changeDirectory further) t = (.ok q, u)) :
    outcome (changeDirectory (Path.join first further)) s = (.ok q, u) := by
  obtain ⟨⟨hp, -, -⟩, rfl⟩ := moved_of_changeDirectory hfirst
  obtain ⟨⟨hq, hopen, hthere⟩, rfl⟩ := moved_of_changeDirectory hfurther
  have hleads : LeadsTo s (Path.join first further) q := by
    refine ⟨?_, hopen, hthere⟩
    rw [Path.resolve?_join hp]
    exact hq
  exact hleads.outcome_eq

theorem cd_silent_iff {s t : Shell} {arg : Text} (rest : List Text) :
    outcome (cd (arg :: rest)) s = (.ok silence, t) ↔
      ∃ p, outcome (changeDirectory arg) s = (.ok p, t) := by
  rw [cd, outcome_bind, outcome_attempt]
  rcases outcome (changeDirectory arg) s with ⟨f | p, u⟩
  · constructor
    · intro h
      cases f <;> simp [silence, Outcome.text] at h
    · rintro ⟨p, h⟩
      cases h
  · constructor
    · intro h
      obtain ⟨-, rfl⟩ := Prod.mk.inj h
      exact ⟨p, rfl⟩
    · rintro ⟨q, h⟩
      obtain ⟨-, rfl⟩ := Prod.mk.inj h
      rfl

/-- From an absolute place, following two spellings one after the other leads to where the two joined lead
at once. Where a spelling leads depends on the canonical spelling of the place only, and not on the place at
all if the spelling is absolute. So a shell that moves twice, or is moved twice by the command for that, and
succeeds each time could have moved at once, and would be the same shell. -/
theorem seen_in_steps_or_at_once :
    (∀ {place : Text}, Path.isAbsolute place = true → ∀ first further, ∃ p q,
      Path.resolve? place first = some p ∧ Path.resolve? p.text further = some q ∧
        Path.resolve? place (Path.join first further) = some q) ∧
    (∀ {place other : Text}, Path.canonical? place = Path.canonical? other → ∀ spelling,
      Path.resolve? place spelling = Path.resolve? other spelling) ∧
    (∀ {spelling : Text}, Path.isAbsolute spelling = true → ∀ place,
      Path.resolve? place spelling = Path.parse? spelling) ∧
    (∀ {s t u : Shell} {first further : Text} {p q : Path},
      outcome (changeDirectory first) s = (.ok p, t) →
      outcome (changeDirectory further) t = (.ok q, u) →
        outcome (changeDirectory (Path.join first further)) s = (.ok q, u)) ∧
    ∀ {s t u : Shell} {first further : Text} (rest more most : List Text),
      outcome (runBuiltin .cd (first :: rest)) s = (.ok silence, t) →
      outcome (runBuiltin .cd (further :: more)) t = (.ok silence, u) →
        outcome (runBuiltin .cd (Path.join first further :: most)) s = (.ok silence, u) := by
  refine ⟨fun habsolute first further => ?_, fun hsame spelling => ?_,
    fun habsolute place => Path.resolve?_of_absolute place habsolute,
    changeDirectory_joined, fun rest more most hfirst hfurther => ?_⟩
  · obtain ⟨p, hp⟩ := Path.exists_resolve? habsolute first
    obtain ⟨q, hq⟩ := Path.exists_resolve? (Path.isAbsolute_text p) further
    exact ⟨p, q, hp, hq, (Path.resolve?_join hp further).trans hq⟩
  · have htext : Function.Injective Path.text := fun _ _ => Path.text_injective
    exact Path.resolve?_congr (Option.map_injective htext hsame) spelling
  · obtain ⟨p, hp⟩ := (cd_silent_iff rest).mp hfirst
    obtain ⟨q, hq⟩ := (cd_silent_iff more).mp hfurther
    exact (cd_silent_iff most).mpr ⟨q, changeDirectory_joined hp hq⟩

/-- Going back more often than there are names ends at the root, in two steps as at once. A shell that moves
into a directory and back is where it was. -/
theorem seen_in_steps_or_at_once_above_root :
    let place := Text.ofString "//a/./b"
    let first := Text.ofString "../../../x/."
    let further := Text.ofString ".//../y/"
    (∃ p q, Path.resolve? place first = some p ∧ Path.resolve? p.text further = some q ∧
      Path.resolve? place (Path.join first further) = some q ∧ q.text = Text.ofString "/y") ∧
    Path.resolve? place further = Path.resolve? (Text.ofString "/a/b") further ∧
    Path.resolve? place (Text.ofString "/z") = Path.parse? (Text.ofString "/z") ∧
    ∃ start, build 0 .usual builtins = .ok start ∧
      let s := after start [(1, .executed (.ofString "mkdir a"))]
      outcome (changeDirectory (Path.join "a" "..")) s = (.ok [], { s with directory := Path.text [] }) ∧
      outcome (runBuiltin .cd [Path.join "a" ".."]) s =
        (.ok silence, { s with directory := Path.text [] }) := by
  intro place first further
  obtain ⟨hsteps, hplace, habsolute, hmoves, hmoved⟩ := seen_in_steps_or_at_once
  refine ⟨?_, ?_, habsolute (by decide +kernel) place, ?_⟩
  · obtain ⟨p, q, hp, hq, hjoined⟩ :=
      hsteps (show Path.isAbsolute place = true by decide +kernel) first further
    have hend : (Path.resolve? place (Path.join first further)).map Path.text =
        some (Text.ofString "/y") := by decide +kernel
    rw [hjoined] at hend
    exact ⟨p, q, hp, hq, hjoined, Option.some.inj hend⟩
  · exact hplace (by decide +kernel) further
  · obtain ⟨start, hstart⟩ : ∃ start, build 0 .usual builtins = .ok start := ⟨_, rfl⟩
    refine ⟨start, hstart, ?_⟩
    intro s
    let a : Name := ⟨Text.ofString "a", by decide⟩
    have hthere : s.volume.root.entry [a] = some (.directory 0o777) ∧
        s.volume.root.entry [] = some (.directory 0o777) ∧ s.volume.released = false ∧
        Path.resolve? s.directory (Text.ofString "a") = some [a] ∧
        Path.resolve? (Path.text [a]) (Text.ofString "..") = some [] := by
      obtain rfl := Except.ok.inj hstart
      decide +kernel
    obtain ⟨hentry, hroot, hopen, hinto, hback⟩ := hthere
    have hin : LeadsTo s "a" [a] := ⟨hinto, hopen, _, hentry⟩
    have hout : LeadsTo { s with directory := Path.text [a] } ".." [] := ⟨hback, hopen, _, hroot⟩
    have hin' := (cd_silent_iff []).mpr ⟨_, hin.outcome_eq⟩
    have hout' := (cd_silent_iff []).mpr ⟨_, hout.outcome_eq⟩
    exact ⟨hmoves hin.outcome_eq hout.outcome_eq, hmoved [] [] [] hin' hout'⟩

end Shell

end MemoryShell
