import MemoryShell.Proofs.Path.Below
import MemoryShell.Proofs.Volume.Run

/-!
Canonical spellings. An absolute spelling is read piece by piece onto a stack of names, and the stack
joined by slashes behind one slash is the canonical spelling of its path. Its form can be told without
reading it, and spellings of that form are those that reading leaves as they are. The usual way to tidy
a spelling keeps two slashes in front; with the slashes in front made one, it comes to the same.
-/

set_option autoImplicit false

namespace MemoryShell

namespace Text

variable {separator : CodePoint}

theorem notMem_of_mem_split {t p : Text} (h : p ∈ t.split separator) : separator ∉ p := by
  induction t generalizing p with
  | nil =>
    rw [split, List.mem_singleton] at h
    simp [h]
  | cons c t ih =>
    obtain ⟨q, qs, hq⟩ := List.exists_cons_of_ne_nil (split_ne_nil separator t)
    by_cases hc : c = separator
    · rw [split, if_pos hc] at h
      rcases List.mem_cons.mp h with rfl | h
      · simp
      · exact ih h
    · have hsplit : split separator (c :: t) = (c :: q) :: qs := by simp [split, hc, hq]
      rw [hsplit] at h
      rcases List.mem_cons.mp h with rfl | h
      · have hrest : separator ∉ q := ih (hq ▸ List.mem_cons_self)
        simp [hrest, Ne.symm hc]
      · exact ih (hq ▸ List.mem_cons_of_mem q h)

theorem intercalate_split (separator : CodePoint) (t : Text) :
    [separator].intercalate (t.split separator) = t := by
  induction t with
  | nil => rfl
  | cons c t ih =>
    obtain ⟨q, qs, hq⟩ := List.exists_cons_of_ne_nil (split_ne_nil separator t)
    rw [hq] at ih
    by_cases hc : c = separator
    · subst hc
      have hsplit : split c (c :: t) = [] :: q :: qs := by simp [split, hq]
      rw [hsplit, List.intercalate_cons_cons, ih]
      rfl
    · have hsplit : split separator (c :: t) = (c :: q) :: qs := by simp [split, hc, hq]
      rw [hsplit, ← ih]
      cases qs with
      | nil => simp
      | cons r rs => simp [List.intercalate_cons_cons]

theorem split_intercalate {ps : List Text} (hne : ps ≠ []) (hps : ∀ p ∈ ps, separator ∉ p) :
    split separator ([separator].intercalate ps) = ps := by
  induction ps with
  | nil => exact absurd rfl hne
  | cons p ps ih =>
    have hp : separator ∉ p := hps p List.mem_cons_self
    have halone : p.split separator = [p] := by
      have h : split separator (p ++ []) = [p ++ []] := split_append hp rfl
      rwa [List.append_nil] at h
    cases ps with
    | nil => rw [List.intercalate_singleton, halone]
    | cons q qs =>
      have hrest := ih (List.cons_ne_nil q qs) fun r hr => hps r (List.mem_cons_of_mem p hr)
      rw [List.intercalate_cons_cons, List.append_assoc, List.singleton_append,
        split_append_separator, halone, hrest, List.singleton_append]

end Text

namespace Path

/-- The stack after one more piece: an empty piece and a dot are skipped, two dots take the last one
off, if there is one, and any other piece is put on. -/
def push (stack : List Text) (piece : Text) : List Text :=
  if piece = [] ∨ piece = dot then stack
  else if piece = dotDot then stack.dropLast
  else stack ++ [piece]

def stack (t : Text) : List Text :=
  (pieces t).foldl push []

def canonical? (t : Text) : Option Text :=
  (parse? t).map text

def parts? (t : Text) : Option (List Text) :=
  (canonical? t).map fun r => (pieces r).filter fun piece => piece ≠ []

def slashesKept (t : Text) : Nat :=
  if [slash, slash] <+: t ∧ ¬ [slash, slash, slash] <+: t then 2
  else if isAbsolute t then 1
  else 0

/-- The stack of a tidied spelling after one more piece. In a relative one, two dots with nothing to go
back from stay. -/
def tidyPush (rooted : Prop) [Decidable rooted] (stack : List Text) (piece : Text) : List Text :=
  if piece = [] ∨ piece = dot then stack
  else if piece ≠ dotDot ∨ (¬ rooted ∧ stack = []) ∨ stack.getLast? = some dotDot then
    stack ++ [piece]
  else stack.dropLast

def tidy (t : Text) : Text :=
  match List.replicate (slashesKept t) slash ++
      [slash].intercalate ((pieces t).foldl (tidyPush (slashesKept t ≠ 0)) []) with
  | [] => dot
  | r => r

/-- The form of a canonical spelling: one slash in front, none at the end but that of the root, and no
piece that stays or goes back. -/
structure IsCanonical (t : Text) : Prop where
  absolute : isAbsolute t = true
  single : ¬ [slash, slash] <+: t
  ending : t ≠ [slash] → t.getLast? ≠ some slash
  proper : t ≠ [slash] → ∀ piece ∈ pieces t.tail, piece ≠ [] ∧ piece ≠ dot ∧ piece ≠ dotDot

/-! ### The stack -/

theorem map_text_enter (p : Path) {piece : Text} (h : slash ∉ piece) :
    (enter p piece).map Name.text = push (p.map Name.text) piece := by
  unfold enter push
  by_cases hname : isName piece = true
  · have hproper : piece ≠ [] ∧ piece ≠ dot ∧ piece ≠ dotDot := by
      simpa [isName, h, and_assoc] using hname
    obtain ⟨hnil, hdot, hback⟩ := hproper
    simp [hname, hnil, hdot, hback]
  · by_cases hback : piece = dotDot
    · subst hback
      have hstays : ¬ (dotDot = [] ∨ dotDot = dot) := by decide
      rw [dif_neg hname, if_pos rfl, if_neg hstays, if_pos rfl, List.map_dropLast]
    · have hidle : piece = [] ∨ piece = dot := by
        by_contra hnot
        rw [not_or] at hnot
        exact hname (by simp [isName, h, hnot.1, hnot.2, hback])
      simp [hname, hback, hidle]

theorem map_text_foldl_enter (p : Path) {ps : List Text} (h : ∀ piece ∈ ps, slash ∉ piece) :
    (ps.foldl enter p).map Name.text = ps.foldl push (p.map Name.text) := by
  induction ps generalizing p with
  | nil => rfl
  | cons piece ps ih =>
    have hpiece : slash ∉ piece := h piece List.mem_cons_self
    rw [List.foldl_cons, List.foldl_cons, ← map_text_enter p hpiece]
    exact ih _ fun other hother => h other (List.mem_cons_of_mem piece hother)

theorem map_text_ofPieces (t : Text) : (ofPieces (pieces t)).map Name.text = stack t :=
  map_text_foldl_enter [] fun _ hpiece => Text.notMem_of_mem_split hpiece

theorem text_eq_intercalate (p : Path) : p.text = slash :: [slash].intercalate (p.map Name.text) := by
  induction p with
  | nil => rfl
  | cons n p ih =>
    cases p with
    | nil => simp [text]
    | cons m p =>
      rw [text_cons, List.flatMap_cons, ← text_cons, ih]
      simp [List.intercalate_cons_cons]

theorem parse?_eq (t : Text) :
    parse? t = if isAbsolute t then some (ofPieces (pieces t)) else none := rfl

theorem canonical?_eq (t : Text) :
    canonical? t = if isAbsolute t then some (slash :: [slash].intercalate (stack t)) else none := by
  rw [canonical?, parse?_eq]
  by_cases h : isAbsolute t = true
  · simp only [h, if_true, Option.map_some, text_eq_intercalate, map_text_ofPieces]
  · simp [h]

/-! ### The usual way to tidy -/

theorem notMem_push {stack : List Text} (h : dotDot ∉ stack) (piece : Text) :
    dotDot ∉ push stack piece := by
  unfold push
  split
  · exact h
  · split
    · exact fun hmem => h (List.dropLast_subset stack hmem)
    · rename_i hback
      simp [h, Ne.symm hback]

theorem tidyPush_of_rooted {rooted : Prop} [Decidable rooted] (hrooted : rooted)
    {stack : List Text} (h : dotDot ∉ stack) (piece : Text) :
    tidyPush rooted stack piece = push stack piece := by
  have hlast : stack.getLast? ≠ some dotDot := fun hlast => h (List.mem_of_getLast? hlast)
  unfold tidyPush push
  by_cases hback : piece = dotDot <;> simp [hrooted, hlast, hback]

theorem foldl_tidyPush_of_rooted {rooted : Prop} [Decidable rooted] (hrooted : rooted)
    {stack : List Text} (h : dotDot ∉ stack) (ps : List Text) :
    ps.foldl (tidyPush rooted) stack = ps.foldl push stack := by
  induction ps generalizing stack with
  | nil => rfl
  | cons piece ps ih =>
    rw [List.foldl_cons, List.foldl_cons, tidyPush_of_rooted hrooted h]
    exact ih (notMem_push h piece)

theorem slashesKept_pos {t : Text} (h : isAbsolute t = true) : 0 < slashesKept t := by
  unfold slashesKept
  split <;> omega

theorem dropWhile_intercalate (p : Path) :
    ([slash].intercalate (p.map Name.text)).dropWhile (· = slash) =
      [slash].intercalate (p.map Name.text) := by
  cases p with
  | nil => rfl
  | cons n p =>
    obtain ⟨c, cs, hn⟩ := List.exists_cons_of_ne_nil n.text_ne_nil
    have hc : c ≠ slash := fun h => n.slash_notMem (by rw [hn, h]; exact List.mem_cons_self)
    cases p with
    | nil => simp [hn, hc]
    | cons m p => simp [List.intercalate_cons_cons, hn, hc]

theorem dropWhile_tidy {t : Text} (h : isAbsolute t = true) :
    (tidy t).dropWhile (· = slash) = [slash].intercalate (stack t) := by
  have hpos := slashesKept_pos h
  have hfold : (pieces t).foldl (tidyPush (slashesKept t ≠ 0)) [] = stack t :=
    foldl_tidyPush_of_rooted (by omega) (by simp) (pieces t)
  have htidy : tidy t = List.replicate (slashesKept t) slash ++ [slash].intercalate (stack t) := by
    obtain ⟨n, hn⟩ : ∃ n, slashesKept t = n + 1 := ⟨slashesKept t - 1, by omega⟩
    rw [tidy, hfold, hn, List.replicate_succ, List.cons_append]
  have hfront : ∀ c ∈ List.replicate (slashesKept t) slash, decide (c = slash) = true := by
    intro c hc
    simpa using List.eq_of_mem_replicate hc
  rw [htidy, List.dropWhile_append_of_pos hfront, ← map_text_ofPieces, dropWhile_intercalate]

/-! ### The canonical form -/

theorem isCanonical_of_proper {t : Text} (habsolute : isAbsolute t = true)
    (hproper : t ≠ [slash] → ∀ piece ∈ pieces t.tail, piece ≠ [] ∧ piece ≠ dot ∧ piece ≠ dotDot) :
    IsCanonical t := by
  obtain ⟨rest, rfl⟩ : ∃ rest, t = slash :: rest := by
    cases t with
    | nil => simp [isAbsolute] at habsolute
    | cons c rest => exact ⟨rest, by simpa [isAbsolute] using habsolute⟩
  refine ⟨habsolute, ?_, ?_, hproper⟩
  · rintro ⟨more, hmore⟩
    obtain rfl : slash :: more = rest := by simpa using hmore
    have hempty : ([] : Text) ∈ pieces (slash :: more) := by simp [pieces, Text.split]
    exact (hproper (by simp) [] hempty).1 rfl
  · intro hroot hlast
    obtain ⟨front, hfront⟩ := List.getLast?_eq_some_iff.mp hlast
    cases front with
    | nil => exact hroot hfront
    | cons c front =>
      obtain ⟨-, rfl⟩ := List.cons.inj hfront
      have hempty : ([] : Text) ∈ pieces (front ++ [slash]) := by
        rw [pieces, Text.split_append_separator]
        simp [Text.split]
      exact (hproper hroot [] hempty).1 rfl

theorem isCanonical_text (p : Path) : IsCanonical p.text := by
  refine isCanonical_of_proper (isAbsolute_text p) fun hroot piece hpiece => ?_
  have hp : p.map Name.text ≠ [] := by
    intro hnil
    rw [List.map_eq_nil_iff] at hnil
    exact hroot (by rw [hnil]; rfl)
  have hnames : ∀ t ∈ p.map Name.text, slash ∉ t := by
    intro t ht
    obtain ⟨n, -, rfl⟩ := List.mem_map.mp ht
    exact n.slash_notMem
  rw [text_eq_intercalate, List.tail_cons, pieces, Text.split_intercalate hp hnames] at hpiece
  obtain ⟨n, -, rfl⟩ := List.mem_map.mp hpiece
  have hn := n.valid
  simp only [isName, ne_eq, Bool.and_eq_true, decide_eq_true_eq] at hn
  exact ⟨hn.1.1.1, hn.1.2, hn.2⟩

theorem IsCanonical.exists_text {t : Text} (h : IsCanonical t) : ∃ p : Path, p.text = t := by
  by_cases hroot : t = [slash]
  · exact ⟨[], hroot.symm⟩
  · have hnames : ∀ piece ∈ pieces t.tail, isName piece = true := by
      intro piece hpiece
      obtain ⟨hnil, hdot, hback⟩ := h.proper hroot piece hpiece
      have hslash : slash ∉ piece := Text.notMem_of_mem_split hpiece
      simp [isName, hnil, hdot, hback, hslash]
    refine ⟨(pieces t.tail).attach.map fun piece => ⟨piece.1, hnames piece.1 piece.2⟩, ?_⟩
    have hmap : ((pieces t.tail).attach.map fun piece =>
        (⟨piece.1, hnames piece.1 piece.2⟩ : Name)).map Name.text = pieces t.tail := by
      rw [List.map_map]
      exact List.attach_map_subtype_val _
    rw [text_eq_intercalate, hmap, pieces, Text.intercalate_split]
    have habsolute := h.absolute
    cases t with
    | nil => simp [isAbsolute] at habsolute
    | cons c rest =>
      have hc : c = slash := by simpa [isAbsolute] using habsolute
      rw [hc, List.tail_cons]

theorem canonical?_text (p : Path) : canonical? p.text = some p.text := by
  rw [canonical?, parse?_text, Option.map_some]

theorem canonical?_eq_self_iff (t : Text) : canonical? t = some t ↔ IsCanonical t := by
  constructor
  · intro h
    obtain ⟨p, -, hp⟩ := Option.map_eq_some_iff.mp h
    exact hp ▸ isCanonical_text p
  · intro h
    obtain ⟨p, rfl⟩ := h.exists_text
    exact canonical?_text p

/-! ### Paths told from their spellings -/

theorem parts?_eq (t : Text) : parts? t = (parse? t).map (·.map Name.text) := by
  have hparts : ∀ p : Path, (pieces p.text).filter (fun piece => piece ≠ []) = p.map Name.text := by
    intro p
    by_cases hp : p = []
    · subst hp
      rfl
    · have hkept : (p.map Name.text).filter (fun piece => piece ≠ []) = p.map Name.text := by
        refine List.filter_eq_self.mpr fun piece hpiece => ?_
        obtain ⟨n, -, rfl⟩ := List.mem_map.mp hpiece
        simpa using n.text_ne_nil
      rw [pieces_text hp, List.filter_cons_of_neg (by simp), hkept]
  rw [parts?, canonical?, Option.map_map]
  exact congrArg (fun f => (parse? t).map f) (funext hparts)

theorem canonical?_eq_iff (s t : Text) : canonical? s = canonical? t ↔ parts? s = parts? t := by
  have htext : Function.Injective (text : Path → Text) := fun _ _ => text_injective
  have hnames : Function.Injective fun p : Path => p.map Name.text :=
    List.map_injective_iff.mpr fun _ _ => Name.ext_text
  rw [parts?_eq, parts?_eq, canonical?, canonical?, (Option.map_injective htext).eq_iff,
    (Option.map_injective hnames).eq_iff]

/-- An absolute spelling leads to the path whose canonical spelling is its stack joined by slashes behind
one slash; this is what tidying it comes to, with the slashes in front made one. A relative spelling leads
nowhere, and a volume complains about it. A canonical spelling has one slash in front, none at the end but
that of the root, and no empty piece, dot or two dots; these are the spellings that are their own canonical
ones. Spellings have one canonical spelling just in case that it has the same parts. -/
theorem spelled_canonically :
    (∀ t, canonical? t =
      if isAbsolute t then some (slash :: [slash].intercalate (stack t)) else none) ∧
    (∀ t, canonical? t =
      if isAbsolute t then some (slash :: (tidy t).dropWhile (· = slash)) else none) ∧
    (∀ t r, canonical? t = some r → IsCanonical r ∧ canonical? r = some r) ∧
    (∀ t, canonical? t = some t ↔ IsCanonical t) ∧
    (∀ s t, canonical? s = canonical? t ↔ parts? s = parts? t) ∧
    (∀ t v p, outcome (Volume.locate t) v = (.ok p, v) ↔ canonical? t = some p.text) ∧
    ∀ t, isAbsolute t = false → canonical? t = none ∧
      (∀ v, outcome (Volume.locate t) v = (.error (.relative t), v)) ∧
      (Volume.Error.relative t).label = "ValueError" := by
  refine ⟨canonical?_eq, fun t => ?_, fun t r h => ?_, canonical?_eq_self_iff, canonical?_eq_iff,
    fun t v p => ?_, fun t h => ⟨?_, fun v => ?_, rfl⟩⟩
  · rw [canonical?_eq]
    by_cases h : isAbsolute t = true
    · rw [dropWhile_tidy h]
    · simp [h]
  · obtain ⟨p, -, rfl⟩ := Option.map_eq_some_iff.mp h
    exact ⟨isCanonical_text p, canonical?_text p⟩
  · rw [Volume.outcome_locate, canonical?]
    cases hp : parse? t with
    | none => simp
    | some q => simpa using ⟨fun h => h ▸ rfl, text_injective⟩
  · rw [canonical?_eq]
    simp [h]
  · rw [Volume.outcome_locate, parse?_eq]
    simp [h]

/-- Two slashes in front are kept by tidying but not by reading, and going back at the root stays there. A
relative spelling is complained about. -/
theorem spelled_canonically_two_slashes :
    let t := Text.ofString "//a/./b//../..//../c/"
    let r := Text.ofString "/c"
    stack t = [Text.ofString "c"] ∧ tidy t = Text.ofString "//c" ∧ canonical? t = some r ∧
      IsCanonical r ∧ canonical? r = some r ∧ parts? t = parts? r ∧
      ∀ v, outcome (Volume.locate (Text.ofString "c")) v =
        (.error (.relative (Text.ofString "c")), v) := by
  intro t r
  obtain ⟨hread, -, hform, -, hparts, -, hrelative⟩ := spelled_canonically
  have hstack : stack t = [Text.ofString "c"] := by decide +kernel
  have habsolute : isAbsolute t = true := by decide +kernel
  have ht : canonical? t = some r := by
    rw [hread, if_pos habsolute, hstack]
    decide +kernel
  obtain ⟨hr, hself⟩ := hform t r ht
  obtain ⟨-, hfails, -⟩ := hrelative (Text.ofString "c") (by decide +kernel)
  exact ⟨hstack, by decide +kernel, ht, hr, hself, (hparts t r).mp (ht.trans hself.symm), hfails⟩

end Path

end MemoryShell
