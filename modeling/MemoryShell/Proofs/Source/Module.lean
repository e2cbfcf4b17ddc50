import MemoryShell.Proofs.Source.Rereading

set_option autoImplicit false

namespace MemoryShell.Source

open Recognizer (read)

theorem take_append_of_append_eq {front back parts : List Tree} (h : front ++ back = parts) :
    parts.take (parts.length - back.length) ++ back = parts := by
  subst h
  rw [List.length_append, Nat.add_sub_cancel, List.take_left]

theorem take_append_plain (parts : List Tree) :
    parts.take (parts.length - (parts.reverse.takeWhile fun t => t.role = .plain).reverse.length) ++
      (parts.reverse.takeWhile fun t => t.role = .plain).reverse = parts := by
  have h : (parts.reverse.dropWhile fun t => t.role = .plain).reverse ++
      (parts.reverse.takeWhile fun t => t.role = .plain).reverse = parts := by
    rw [← List.reverse_append, List.takeWhile_append_dropWhile, List.reverse_reverse]
  exact take_append_of_append_eq h

theorem undecorated_decorate (front : List Tree) (t : Tree) :
    (Grammar.decorate front t).undecorated = t.undecorated := by
  obtain ⟨role, form, parts⟩ := t
  have hfront : (front.map (Tree.as .decorator)).filter (fun part => part.role ≠ .decorator) = [] := by
    simp only [List.filter_eq_nil_iff, List.mem_map]
    rintro _ ⟨⟨_, _, _⟩, -, rfl⟩
    simp [Tree.as, Tree.role]
  rw [Grammar.decorate, Tree.undecorated, Tree.undecorated, List.filter_append, List.filter_append, hfront,
    List.append_nil, ← List.filter_append, take_append_plain]

theorem decorate_nil (t : Tree) : Grammar.decorate [] t = t := by
  obtain ⟨role, form, parts⟩ := t
  rw [Grammar.decorate, List.map_nil, List.append_nil, take_append_plain]

theorem decorateFirst_nil (trees : List Tree) : decorateFirst [] trees = trees := by
  cases trees with
  | nil => rfl
  | cons t ts => rw [decorateFirst, decorate_nil]

section

variable {ts : Tokens}

theorem Tokens.not_isDecorated_of_isDefinition (h : ts.isDefinition = true) : ts.isDecorated = false := by
  obtain ⟨⟨tokens⟩, stop?⟩ := ts
  match tokens, h with
  | a :: b :: _, h =>
    simp only [isDefinition, Recognizer.isMark, Bool.or_eq_true, Bool.and_eq_true, decide_eq_true_eq] at h
    simp only [isDecorated, List.getElem?_toArray, List.getElem?_cons_zero, Option.any_some,
      Recognizer.isMark]
    rcases h with (⟨-, hword⟩ | ⟨-, hword⟩) | ⟨⟨-, hword⟩, -⟩ <;> simp [hword]

theorem undecorate_of_not_isDecorated (h : ts.isDecorated = false) : undecorate ts = some ([], ts) := by
  rw [undecorate, h]
  rfl

theorem undecorated_of_not_isDecorated (h : ts.isDecorated = false) : ts.undecorated = ts := by
  rw [Tokens.undecorated, undecorate_of_not_isDecorated h]

theorem not_isDecorated_of_undecorate {front : List Tree} {rest : Tokens}
    (h : undecorate ts = some (front, rest)) : rest.isDecorated = false := by
  unfold undecorate at h
  split at h
  · split at h
    · obtain ⟨hdefinition, h⟩ := Option.ite_none_right_eq_some.mp h
      obtain ⟨-, rfl⟩ := Prod.mk.inj (Option.some.inj h)
      exact Tokens.not_isDecorated_of_isDefinition hdefinition
    · cases h
  · next hbare =>
    obtain ⟨-, rfl⟩ := Prod.mk.inj (Option.some.inj h)
    exact Bool.eq_false_iff.mpr hbare

theorem moduleOf_of_undecorate {front : List Tree} {rest : Tokens} {v : Grammar.Value}
    {s : Recognizer.State} (h : undecorate ts = some (front, rest)) (hread : read rest false 0 = .found v s) :
    moduleOf ts = .ok (decorateFirst front v.trees) := by
  rw [moduleOf, h]
  simp only [hread]

theorem exists_read_of_moduleOf {module : List Tree} (h : moduleOf ts = .ok module) :
    ∃ front v s, undecorate ts = some (front, ts.undecorated) ∧
      read ts.undecorated false 0 = .found v s ∧ module = decorateFirst front v.trees := by
  rw [moduleOf] at h
  rw [Tokens.undecorated]
  cases hsplit : undecorate ts with
  | none => simp [hsplit] at h
  | some split =>
    obtain ⟨front, rest⟩ := split
    simp only [hsplit] at h
    cases hread : read rest false 0 with
    | found v s =>
      simp only [hread, Except.ok.injEq] at h
      exact ⟨front, v, s, rfl, rfl, h.symm⟩
    | missed s => simp [hread] at h
    | failed f => simp [hread] at h

end

/-! ## Writing anew -/

section

variable {ts : Tokens} (h : ∀ t ∈ ts.undecorated.tokens, t.Lasts)
  (hspelled : ts.undecorated.respelled = ts.undecorated)

include h hspelled

theorem renews_renewed :
    Recognizer.Renews (Recognizer.lineAt ts.undecorated 0 - 1) ts.undecorated ts.renewed where
  tokens := by
    rw [Tokens.renewed, hspelled]
    rfl
  stop := rfl
  lasts := h
  skipped hempty := by simp [Recognizer.lineAt, hempty]

theorem not_isDecorated_renewed {front : List Tree} {rest : Tokens}
    (hsplit : undecorate ts = some (front, rest)) : ts.renewed.isDecorated = false := by
  have hbare : ts.undecorated.isDecorated = false := by
    rw [Tokens.undecorated, hsplit]
    exact not_isDecorated_of_undecorate hsplit
  rw [Tokens.isDecorated, (renews_renewed h hspelled).getElem?]
  rw [Tokens.isDecorated] at hbare
  cases hfirst : ts.undecorated.tokens[0]? with
  | none => rfl
  | some t =>
    rw [hfirst] at hbare
    exact ((h t (Array.mem_of_getElem? hfirst)).isMark_renew "@").trans hbare

/-- A module whose text is written anew without the decorators in front is read as the module without them. -/
theorem moduleOf_renewed {front : List Tree} (hsplit : undecorate ts = some (front, ts.undecorated))
    {v : Grammar.Value} {s : Recognizer.State} (hread : read ts.undecorated false 0 = .found v s) :
    moduleOf ts.renewed = .ok v.trees := by
  obtain ⟨w, s', hagain, htrees⟩ := Recognizer.exists_read_of_renews (renews_renewed h hspelled) hread
  have hbare := undecorate_of_not_isDecorated (not_isDecorated_renewed h hspelled hsplit)
  rw [moduleOf_of_undecorate hbare hagain, decorateFirst_nil, htrees]

theorem renewed_renewed {front : List Tree} {rest : Tokens} (hsplit : undecorate ts = some (front, rest)) :
    ts.renewed.renewed = ts.renewed := by
  have hrenews := renews_renewed h hspelled
  have hfirst := hrenews.lineAt 0
  have hline : Recognizer.lineAt ts.renewed 0 - 1 = 0 := by omega
  have htokens : ts.renewed.tokens.map (Token.renew 0) = ts.renewed.tokens := by
    rw [hrenews.tokens, Array.map_map]
    refine Array.map_congr_left fun t ht => ?_
    rw [Function.comp_apply, Token.renew, Token.settled_renew]
    rfl
  have hkept : respell ts.undecorated.tokens.toList = ts.undecorated.tokens.toList :=
    congrArg (fun us => us.tokens.toList) hspelled
  have hagain : ts.renewed.respelled = ts.renewed := by
    have hlist : respell ts.renewed.tokens.toList = ts.renewed.tokens.toList := by
      rw [hrenews.tokens, Array.toList_map, respell_renew fun t ht => h t (Array.mem_toList_iff.mp ht), hkept]
    rw [Tokens.respelled, hlist]
  rw [Tokens.renewed, undecorated_of_not_isDecorated (not_isDecorated_renewed h hspelled hsplit), hagain, hline]
  exact congrArg (Tokens.mk · none) htokens

end

end MemoryShell.Source
