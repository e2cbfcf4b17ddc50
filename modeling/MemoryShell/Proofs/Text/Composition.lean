import Mathlib.Data.List.Nodup
import MemoryShell.Text.NormalForm

/-!
Taking characters apart. The tables say of each composed character that its second part is not composed,
and that its first part is composed twice at most. So a character comes apart in as many steps as there are,
what it comes apart into is simple, and what has been composed comes apart into its two parts. The tables
are read once, as lists of characters, with sets of code points as bits of numbers.
-/

set_option autoImplicit false

namespace MemoryShell.Text

def bitsOf : List Nat → Nat
  | [] => 0
  | n :: ns => 1 <<< n ||| bitsOf ns

theorem testBit_bitsOf {ns : List Nat} {n : Nat} : (bitsOf ns).testBit n = true ↔ n ∈ ns := by
  induction ns with
  | nil => simp [bitsOf]
  | cons m ms ih =>
    rw [bitsOf, Nat.testBit_or, Bool.or_eq_true, Nat.one_shiftLeft, Nat.testBit_two_pow, ih,
      decide_eq_true_eq, List.mem_cons, eq_comm]

def areDistinct : Nat → List Nat → Bool
  | _, [] => true
  | seen, n :: ns => !seen.testBit n && areDistinct (1 <<< n ||| seen) ns

theorem nodup_of_areDistinct {seen : Nat} {ns : List Nat} (h : areDistinct seen ns = true) :
    ns.Nodup ∧ ∀ n ∈ ns, seen.testBit n = false := by
  induction ns generalizing seen with
  | nil => simp
  | cons n ns ih =>
    rw [areDistinct, Bool.and_eq_true, Bool.not_eq_true'] at h
    obtain ⟨hnodup, hrest⟩ := ih h.2
    have hothers : ∀ m ∈ ns, m ≠ n ∧ seen.testBit m = false := by
      intro m hm
      have hbit := hrest m hm
      rw [Nat.testBit_or, Bool.or_eq_false_iff, Nat.one_shiftLeft, Nat.testBit_two_pow,
        decide_eq_false_iff_not] at hbit
      exact ⟨Ne.symm hbit.1, hbit.2⟩
    refine ⟨List.nodup_cons.mpr ⟨fun hn => (hothers n hn).1 rfl, hnodup⟩, fun m hm => ?_⟩
    rcases List.mem_cons.mp hm with rfl | hm
    · exact h.1
    · exact (hothers m hm).2

/-- A composed character with its two parts. -/
abbrev Entry := Char × Char × Char

def keysOf (entries : List Entry) : List Nat :=
  entries.map fun e => e.1.toNat

/-- The code points of what is listed in runs. -/
def listedIn (runs : List (Nat × List (List Char))) : List Nat :=
  runs.flatMap fun run => (run.2.zipIdx.filter fun p => p.1 ≠ ['-']).map fun p => run.1 + p.2

/-- The entries whose first part is among some code points, given as bits. -/
def entriesOn (bits : Nat) (entries : List Entry) : List Entry :=
  entries.filter fun e => bits.testBit e.2.1.toNat

def entriesOff (bits : Nat) (entries : List Entry) : List Entry :=
  entries.filter fun e => !bits.testBit e.2.1.toNat

def composesWell (entries : List Entry) : Bool :=
  let keys := bitsOf (keysOf entries)
  let once := bitsOf (keysOf (entriesOff keys entries))
  let twice := bitsOf (keysOf (entriesOn once entries))
  areDistinct 0 (keysOf entries) && entries.all fun e =>
    0xC0 ≤ e.1.toNat && (e.1.toNat < firstLeading || 0x11C3 ≤ e.1.toNat) && 0x80 ≤ e.2.2.toNat &&
      (syllable? e.1).isNone && (syllable? e.2.1).isNone && (syllable? e.2.2).isNone &&
      !keys.testBit e.2.2.toNat &&
      (!keys.testBit e.2.1.toNat || once.testBit e.2.1.toNat || twice.testBit e.2.1.toNat)

def decomposesWell (entries : List Entry) (runs : List (Nat × List (List Char))) : Bool :=
  let keys := bitsOf (keysOf entries)
  let listed := bitsOf (listedIn runs)
  runs.all fun run => run.2.all fun piece => piece = ['-'] || piece.all fun d =>
    !keys.testBit d.toNat && !listed.testBit d.toNat && (syllable? d).isNone

theorem exists_map_eq_nil {α β : Type} {f : α → β} {P : List β → Prop} (h : P []) :
    ∃ bs, List.map f [] = bs ∧ P bs :=
  ⟨[], rfl, h⟩

theorem exists_map_eq_cons {α β : Type} {f : α → β} {a : α} {b : β} {as : List α} {P : List β → Prop}
    (hab : f a = b) (h : ∃ bs, as.map f = bs ∧ P (b :: bs)) : ∃ bs, (a :: as).map f = bs ∧ P bs := by
  obtain ⟨bs, hbs, hp⟩ := h
  exact ⟨b :: bs, by rw [List.map_cons, hab, hbs], hp⟩

set_option maxRecDepth 4000 in
theorem tables_well : composesWell composites = true ∧ decomposesWell composites decompositions = true := by
  obtain ⟨css, hcss, runs, hruns, hwell⟩ : ∃ css, compositeRows.map String.toList = css ∧
      ∃ runs, decompositionRuns.map (fun run => (run.1, run.2.toList)) = runs ∧
        (composesWell (css.flatMap triples) && decomposesWell (css.flatMap triples)
          (runs.map fun run => (run.1, pieces run.2))) = true := by
    -- Read as characters row by row, for taking a string apart is slow.
    unfold compositeRows
    repeat refine exists_map_eq_cons String.toList_ofList ?_
    refine exists_map_eq_nil ?_
    unfold decompositionRuns
    repeat refine exists_map_eq_cons (congrArg (Prod.mk _) String.toList_ofList) ?_
    refine exists_map_eq_nil ?_
    decide +kernel
  have hcomposites : composites = css.flatMap triples := by rw [composites, ← hcss, List.flatMap_map]
  have hdecompositions : decompositions = runs.map fun run => (run.1, pieces run.2) := by
    rw [decompositions, ← hruns, List.map_map]
    rfl
  rw [hcomposites, hdecompositions]
  exact Bool.and_eq_true_iff.mp hwell

theorem mem_keysOf {entries : List Entry} {n : Nat} : n ∈ keysOf entries ↔ ∃ e ∈ entries, e.1.toNat = n :=
  List.mem_map

theorem mem_entriesOn {ns : List Nat} {entries : List Entry} {e : Entry} :
    e ∈ entriesOn (bitsOf ns) entries ↔ e ∈ entries ∧ e.2.1.toNat ∈ ns := by
  rw [entriesOn, List.mem_filter, testBit_bitsOf]

theorem mem_entriesOff {ns : List Nat} {entries : List Entry} {e : Entry} :
    e ∈ entriesOff (bitsOf ns) entries ↔ e ∈ entries ∧ e.2.1.toNat ∉ ns := by
  rw [entriesOff, List.mem_filter, Bool.not_eq_true', Bool.eq_false_iff, ne_eq, testBit_bitsOf]

/-- What holds of each composed character: neither it nor its parts are syllables of Hangul, its second part
is not composed, and its first part is not, or once, or twice. -/
structure Composite (e : Entry) : Prop where
  key : 0xC0 ≤ e.1.toNat
  apart : e.1.toNat < firstLeading ∨ 0x11C3 ≤ e.1.toNat
  behind : 0x80 ≤ e.2.2.toNat
  syllable : syllable? e.1 = none
  syllableFirst : syllable? e.2.1 = none
  syllableSecond : syllable? e.2.2 = none
  second : e.2.2.toNat ∉ keysOf composites
  first : e.2.1.toNat ∉ keysOf composites ∨
    ∃ f ∈ composites, f.1 = e.2.1 ∧ (f.2.1.toNat ∉ keysOf composites ∨
      ∃ g ∈ composites, g.1 = f.2.1 ∧ g.2.1.toNat ∉ keysOf composites)

theorem composite_of_mem {e : Entry} (he : e ∈ composites) : Composite e := by
  have h := tables_well.1
  rw [composesWell, Bool.and_eq_true, List.all_eq_true] at h
  have hwell := h.2 e he
  simp only [Bool.and_eq_true, Bool.or_eq_true, Bool.not_eq_true', decide_eq_true_eq, Option.isNone_iff_eq_none,
    Bool.eq_false_iff, ne_eq, testBit_bitsOf] at hwell
  obtain ⟨⟨⟨⟨⟨⟨⟨hkey, hapart⟩, hbehind⟩, hsyllable⟩, hfirst⟩, hsecond⟩, hb⟩, ha⟩ := hwell
  refine ⟨hkey, hapart, hbehind, hsyllable, hfirst, hsecond, hb, ?_⟩
  rcases ha with (ha | ha) | ha
  · exact .inl ha
  · obtain ⟨f, hf, hfa⟩ := mem_keysOf.mp ha
    obtain ⟨hf, hoff⟩ := mem_entriesOff.mp hf
    exact .inr ⟨f, hf, Char.toNat_inj.mp hfa, .inl hoff⟩
  · obtain ⟨f, hf, hfa⟩ := mem_keysOf.mp ha
    obtain ⟨hf, hon⟩ := mem_entriesOn.mp hf
    obtain ⟨g, hg, hgf⟩ := mem_keysOf.mp hon
    obtain ⟨hg, hoff⟩ := mem_entriesOff.mp hg
    exact .inr ⟨f, hf, Char.toNat_inj.mp hfa, .inr ⟨g, hg, Char.toNat_inj.mp hgf, hoff⟩⟩

theorem keysOf_nodup : (keysOf composites).Nodup := by
  have h := tables_well.1
  rw [composesWell, Bool.and_eq_true] at h
  exact (nodup_of_areDistinct h.1).1

theorem eq_of_mem_composites {e f : Entry} (he : e ∈ composites) (hf : f ∈ composites) (h : e.1 = f.1) :
    e = f :=
  List.inj_on_of_nodup_map keysOf_nodup he hf (congrArg Char.toNat h)

theorem parts?_of_not_syllable {c : Char} (h : syllable? c = none) :
    parts? c = (composites.find? fun e => e.1 = c).map Prod.snd := by
  rw [parts?, h]

theorem parts?_of_mem_composites {e : Entry} (he : e ∈ composites) : parts? e.1 = some e.2 := by
  rw [parts?_of_not_syllable (composite_of_mem he).syllable]
  cases hfind : composites.find? fun f => decide (f.1 = e.1) with
  | none => exact absurd (decide_eq_true rfl) (List.find?_eq_none.mp hfind e he)
  | some f =>
    have hkey := List.find?_some (p := fun f : Entry => decide (f.1 = e.1)) hfind
    rw [eq_of_mem_composites (List.mem_of_find?_eq_some hfind) he (of_decide_eq_true hkey)]
    rfl

theorem mem_composites_of_parts? {c a b : Char} (hc : syllable? c = none) (h : parts? c = some (a, b)) :
    (c, a, b) ∈ composites := by
  rw [parts?_of_not_syllable hc] at h
  obtain ⟨e, hfind, he⟩ := Option.map_eq_some_iff.mp h
  have hkey := List.find?_some (p := fun f : Entry => decide (f.1 = c)) hfind
  have hentry : e = (c, a, b) := Prod.ext (of_decide_eq_true hkey) he
  exact hentry ▸ List.mem_of_find?_eq_some hfind

theorem parts?_eq_none_of_notMem {c : Char} (hc : syllable? c = none) (hkey : c.toNat ∉ keysOf composites) :
    parts? c = none := by
  rw [parts?_of_not_syllable hc, Option.map_eq_none_iff, List.find?_eq_none]
  intro e he hec
  exact hkey (mem_keysOf.mpr ⟨e, he, congrArg Char.toNat (of_decide_eq_true hec)⟩)

/-! ## Syllables -/

theorem position?_of_lt {first n : Nat} (h : n < first) (count : Nat) :
    position? first count n = none := by
  simp [position?, Nat.not_le.mpr h]

theorem position?_eq_some_iff {first count n k : Nat} :
    position? first count n = some k ↔ n = first + k ∧ k < count := by
  rw [position?]
  split
  · next h =>
    simp only [Bool.and_eq_true, decide_eq_true_eq] at h
    rw [Option.some.injEq]
    omega
  · next h =>
    simp only [Bool.and_eq_true, decide_eq_true_eq] at h
    exact iff_of_false nofun (by omega)

theorem toNat_ofNat_of_lt {n : Nat} (h : n < 0xD800) : (Char.ofNat n).toNat = n := by
  rw [Char.ofNat, dif_pos (.inl h)]
  rfl

theorem syllable?_eq_some_iff {c : Char} {s : Nat} :
    syllable? c = some s ↔ c.toNat = 0xAC00 + s ∧ s < 11172 :=
  position?_eq_some_iff

theorem syllable?_eq_none {c : Char} (h : c.toNat < 0xAC00) : syllable? c = none :=
  position?_of_lt h _

/-- The letters that syllables are composed of are not composed. -/
theorem parts?_letter {c : Char} (hlow : 0x1100 ≤ c.toNat) (hhigh : c.toNat < 0x11C3) : parts? c = none := by
  refine parts?_eq_none_of_notMem (syllable?_eq_none (by omega)) fun hkey => ?_
  obtain ⟨e, he, hec⟩ := mem_keysOf.mp hkey
  have hapart := (composite_of_mem he).apart
  rw [hec, firstLeading] at hapart
  omega

theorem parts?_of_syllable {c : Char} {s : Nat} (h : syllable? c = some s) :
    parts? c =
      if s % 28 = 0 then
        some (Char.ofNat (0x1100 + s / 28 / 21), Char.ofNat (0x1161 + s / 28 % 21))
      else some (Char.ofNat (c.toNat - s % 28), Char.ofNat (0x11A7 + s % 28)) := by
  rw [parts?, h]
  rfl

theorem parts?_of_composeSyllable? {a b c : Char} (h : composeSyllable? a b = some c) :
    parts? c = some (a, b) := by
  rw [composeSyllable?] at h
  split at h
  · next l v hl hv =>
    obtain ⟨ha, hl⟩ := position?_eq_some_iff.mp hl
    obtain ⟨hb, hv⟩ := position?_eq_some_iff.mp hv
    simp only [firstLeading, leadingCount, firstVowel, vowelCount, trailingCount, firstSyllable,
      Option.some.injEq] at ha hl hb hv h
    have hc : c.toNat = 0xAC00 + (l * 21 + v) * 28 := by
      rw [← h, toNat_ofNat_of_lt (by omega)]
    have hpair : (l * 21 + v) * 28 / 28 = l * 21 + v := by omega
    have hfirst : (l * 21 + v) / 21 = l := by omega
    have hsecond : (l * 21 + v) % 21 = v := by omega
    rw [parts?_of_syllable (syllable?_eq_some_iff.mpr ⟨hc, by omega⟩), if_pos (by omega), hpair, hfirst,
      hsecond, ← ha, ← hb, Char.ofNat_toNat, Char.ofNat_toNat]
  · split at h
    · next s t hs ht =>
      obtain ⟨ha, hs⟩ := syllable?_eq_some_iff.mp hs
      obtain ⟨hb, ht⟩ := position?_eq_some_iff.mp ht
      obtain ⟨hopen, h⟩ := Option.ite_none_right_eq_some.mp h
      obtain ⟨hclosed, hsome⟩ := Bool.and_eq_true_iff.mp hopen
      have hclosed : s % 28 = 0 := of_decide_eq_true hclosed
      have hsome : t ≠ 0 := of_decide_eq_true hsome
      simp only [firstTrailing, trailingCount, Option.some.injEq] at hb ht h
      have hc : c.toNat = 0xAC00 + (s + t) := by
        rw [← h, toNat_ofNat_of_lt (by omega)]
        omega
      have hlast : (s + t) % 28 = t := by omega
      have hfront : c.toNat - t = a.toNat := by omega
      rw [parts?_of_syllable (syllable?_eq_some_iff.mpr ⟨hc, by omega⟩), hlast, if_neg hsome, hfront, ← hb,
        Char.ofNat_toNat, Char.ofNat_toNat]
    · cases h

theorem parts?_of_compose? {a b c : Char} (h : compose? a b = some c) : parts? c = some (a, b) := by
  rw [compose?] at h
  cases hsyllable : composeSyllable? a b with
  | some d =>
    simp only [hsyllable, Option.some.injEq] at h
    subst h
    exact parts?_of_composeSyllable? hsyllable
  | none =>
    simp only [hsyllable] at h
    obtain ⟨e, hfind, rfl⟩ := Option.map_eq_some_iff.mp h
    have hparts := List.find?_some (p := fun e : Entry => decide (e.2 = (a, b))) hfind
    rw [parts?_of_mem_composites (List.mem_of_find?_eq_some hfind), of_decide_eq_true hparts]

/-! ## Taking apart -/

/-- A character comes apart in fewer than so many steps. -/
inductive Within : Nat → Char → Prop
  | whole {n : Nat} {c : Char} (h : parts? c = none) : Within (n + 1) c
  | composed {n : Nat} {a b c : Char} (h : parts? c = some (a, b)) (ha : Within n a) (hb : Within n b) :
      Within (n + 1) c

theorem Within.mono {n : Nat} {c : Char} (h : Within n c) : Within (n + 1) c := by
  induction h with
  | whole h => exact .whole h
  | composed h _ _ iha ihb => exact .composed h iha ihb

theorem Within.decomposeWithin_succ {n : Nat} {c : Char} (h : Within n c) :
    decomposeWithin (n + 1) c = decomposeWithin n c := by
  induction h with
  | whole h => rw [decomposeWithin, decomposeWithin, h]
  | composed h _ _ iha ihb => rw [decomposeWithin, h, decomposeWithin, h]; simp only [iha, ihb]

theorem within_one {c : Char} (hc : syllable? c = none) (hkey : c.toNat ∉ keysOf composites) : Within 1 c :=
  .whole (parts?_eq_none_of_notMem hc hkey)

theorem within_letter {n : Nat} (hlow : 0x1100 ≤ n) (hhigh : n < 0x11C3) : Within 1 (Char.ofNat n) := by
  have hn : (Char.ofNat n).toNat = n := toNat_ofNat_of_lt (by omega)
  exact .whole (parts?_letter (by omega) (by omega))

theorem within_of_mem_composites {e : Entry} (he : e ∈ composites) : Within 3 e.2.1 ∧ Within 3 e.2.2 := by
  have hwell := composite_of_mem he
  have hsecond : Within 1 e.2.2 := within_one hwell.syllableSecond hwell.second
  refine ⟨?_, hsecond.mono.mono⟩
  rcases hwell.first with hfirst | ⟨f, hf, hfe, hrest⟩
  · exact (within_one hwell.syllableFirst hfirst).mono.mono
  · have hwellf := composite_of_mem hf
    have hsecondf := within_one hwellf.syllableSecond hwellf.second
    rw [← hfe]
    refine .composed (parts?_of_mem_composites hf) ?_ hsecondf.mono
    rcases hrest with hfirst | ⟨g, hg, hgf, hfirst⟩
    · exact (within_one hwellf.syllableFirst hfirst).mono
    · have hwellg := composite_of_mem hg
      rw [← hgf]
      exact .composed (parts?_of_mem_composites hg) (within_one hwellg.syllableFirst hfirst)
        (within_one hwellg.syllableSecond hwellg.second)

theorem within_parts {a b c : Char} (h : parts? c = some (a, b)) : Within 3 a ∧ Within 3 b := by
  cases hc : syllable? c with
  | none => exact within_of_mem_composites (mem_composites_of_parts? hc h)
  | some s =>
    obtain ⟨hplace, hs⟩ := syllable?_eq_some_iff.mp hc
    have hletters : ∀ s' < 11172, Within 1 (Char.ofNat (0x1100 + s' / 28 / 21)) ∧
        Within 1 (Char.ofNat (0x1161 + s' / 28 % 21)) := fun s' hs' =>
      ⟨within_letter (by omega) (by omega), within_letter (by omega) (by omega)⟩
    rw [parts?_of_syllable hc] at h
    split at h
    · obtain ⟨rfl, rfl⟩ := Prod.mk.inj (Option.some.inj h)
      exact ⟨(hletters s hs).1.mono.mono, (hletters s hs).2.mono.mono⟩
    · obtain ⟨rfl, rfl⟩ := Prod.mk.inj (Option.some.inj h)
      have hopen : syllable? (Char.ofNat (c.toNat - s % 28)) = some (s - s % 28) := by
        rw [syllable?_eq_some_iff, toNat_ofNat_of_lt (by omega)]
        omega
      refine ⟨.composed ?_ (hletters (s - s % 28) (by omega)).1.mono (hletters (s - s % 28) (by omega)).2.mono,
        (within_letter (by omega) (by omega)).mono.mono⟩
      rw [parts?_of_syllable hopen, if_pos (by omega)]

theorem within (c : Char) : Within compositionDepth c := by
  cases h : parts? c with
  | none => exact .whole h
  | some p => exact .composed h (within_parts h).1 (within_parts h).2

theorem decompose_of_parts? {a b c : Char} (h : parts? c = some (a, b)) :
    decompose c = decompose a ++ decompose b := by
  obtain ⟨ha, hb⟩ := within_parts h
  rw [decompose, compositionDepth, decomposeWithin, h]
  exact congrArg₂ (· ++ ·) ha.decomposeWithin_succ.symm hb.decomposeWithin_succ.symm

/-- A character that nothing is taken apart into but itself. -/
def Simple (c : Char) : Prop :=
  parts? c = none ∧ listedDecomposition? c = none

theorem Simple.decompose {c : Char} (h : Simple c) : decompose c = [c] := by
  rw [Text.decompose, compositionDepth, decomposeWithin, h.1, h.2]
  rfl

theorem mem_of_listed {c : Char} {ds : List Char} (h : listedDecomposition? c = some ds) :
    c.toNat ∈ listedIn decompositions ∧ ∃ run ∈ decompositions, ds ∈ run.2 ∧ ds ≠ ['-'] := by
  rw [listedDecomposition?] at h
  split at h
  · cases h
  · next run hfind =>
    have hrun := List.mem_of_find?_eq_some hfind
    have hpiece : run.2[c.toNat - run.1]? = some ds ∧ ds ≠ ['-'] := by
      split at h
      · cases h
      · next hdash => exact ⟨h, fun hds => hdash (hds ▸ h)⟩
    have hplace : run.1 ≤ c.toNat := by
      have hsome := List.find?_some
        (p := fun r : Nat × List (List Char) => (position? r.1 r.2.length c.toNat).isSome) hfind
      obtain ⟨k, hk⟩ := Option.isSome_iff_exists.mp hsome
      have := (position?_eq_some_iff.mp hk).1
      omega
    refine ⟨List.mem_flatMap.mpr ⟨run, hrun, List.mem_map.mpr ⟨(ds, c.toNat - run.1), ?_, by omega⟩⟩,
      run, hrun, List.mem_of_getElem? hpiece.1, hpiece.2⟩
    rw [List.mem_filter, List.mk_mem_zipIdx_iff_getElem?]
    exact ⟨hpiece.1, decide_eq_true hpiece.2⟩

theorem simple_of_listed {c d : Char} {ds : List Char} (h : listedDecomposition? c = some ds) (hd : d ∈ ds) :
    Simple d := by
  obtain ⟨-, run, hrun, hds, hdash⟩ := mem_of_listed h
  have hwell := tables_well.2
  rw [decomposesWell, List.all_eq_true] at hwell
  have hpiece := List.all_eq_true.mp (hwell run hrun) ds hds
  rw [Bool.or_eq_true, decide_eq_true_eq, List.all_eq_true] at hpiece
  have hd := hpiece.resolve_left hdash d hd
  simp only [Bool.and_eq_true, Bool.not_eq_true', Bool.eq_false_iff, ne_eq, testBit_bitsOf,
    Option.isNone_iff_eq_none] at hd
  obtain ⟨⟨hkey, hlisted⟩, hsyllable⟩ := hd
  exact ⟨parts?_eq_none_of_notMem hsyllable hkey,
    Option.eq_none_iff_forall_ne_some.mpr fun es hes => hlisted (mem_of_listed hes).1⟩

theorem simple_of_mem_decomposeWithin {n : Nat} {c d : Char} (hc : Within n c) (h : d ∈ decomposeWithin n c) :
    Simple d := by
  induction hc with
  | @whole n c hparts =>
    rw [decomposeWithin, hparts] at h
    cases hlisted : listedDecomposition? c with
    | none =>
      rw [hlisted] at h
      obtain rfl := List.mem_singleton.mp h
      exact ⟨hparts, hlisted⟩
    | some ds =>
      rw [hlisted] at h
      exact simple_of_listed hlisted h
  | composed hparts _ _ iha ihb =>
    rw [decomposeWithin, hparts] at h
    exact (List.mem_append.mp h).elim iha ihb

theorem simple_of_mem_decompose {c d : Char} (h : d ∈ decompose c) : Simple d :=
  simple_of_mem_decomposeWithin (within c) h

end MemoryShell.Text
