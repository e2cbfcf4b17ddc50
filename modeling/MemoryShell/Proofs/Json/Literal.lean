import Mathlib.Data.List.Chain
import MemoryShell.Json.Octets
import MemoryShell.Json.Printer
import MemoryShell.Proofs.Text.Utf8

set_option autoImplicit false

namespace MemoryShell

namespace Json

open Coding (joinPairs)

variable {c : CodePoint}

theorem hexDigit?_digitChar {d : Nat} (h : d < 16) :
    hexDigit? (CodePoint.ofChar (Nat.digitChar d)) = some d := by
  have hall : ∀ d < 16, hexDigit? (CodePoint.ofChar (Nat.digitChar d)) = some d := by decide
  exact hall d h

theorem exists_unicodeEscape {n : Nat} (h : n < 0x10000) :
    ∃ a b c d, Text.ofChars (unicodeEscape n) = [backslash, letterU, a, b, c, d] ∧
      quad? a b c d = some (CodePoint.ofNat n) := by
  have hnumber : ((n / 16 / 16 / 16 % 16 * 16 + n / 16 / 16 % 16) * 16 + n / 16 % 16) * 16
      + n % 16 = n := by omega
  refine ⟨_, _, _, _, rfl, ?_⟩
  simp only [quad?, hexDigit?_digitChar (Nat.mod_lt _ (by decide : 0 < 16))]
  exact congrArg (fun k => some (CodePoint.ofNat k)) hnumber

theorem stringBody_plain (hq : c ≠ quote) (hb : c ≠ backslash) (hc : 0x20 ≤ c.val) (cs : Text) :
    stringBody (c :: cs) = (stringBody cs).map fun r => (c :: r.1, r.2) := by
  rw [stringBody.eq_def]
  simp only [if_neg hq, if_pos hb, if_neg (Nat.not_lt.mpr hc)]

theorem stringBody_quote (cs : Text) : stringBody (quote :: cs) = .ok ([], cs) := by
  rw [stringBody.eq_def]
  exact if_pos rfl

theorem escape?_letterU : escape? letterU = none := by decide

theorem stringBody_letter {e : CodePoint} (h : escape? e = some c) (cs : Text) :
    stringBody (backslash :: e :: cs) = (stringBody cs).map fun r => (c :: r.1, r.2) := by
  have hu : e ≠ letterU := by
    rintro rfl
    rw [escape?_letterU] at h
    cases h
  have hquote : backslash ≠ quote := by decide
  rw [stringBody.eq_def]
  simp only [if_neg hquote, ne_eq, not_true_eq_false, if_false, if_neg hu, h]

theorem stringBody_unicodeEscape {n : Nat} (h : n < 0x10000) (cs : Text) :
    stringBody (Text.ofChars (unicodeEscape n) ++ cs) =
      (stringBody cs).map fun r => (attach (CodePoint.ofNat n) cs r.1, r.2) := by
  obtain ⟨a, b, c, d, hescape, hquad⟩ := exists_unicodeEscape h
  have hquote : backslash ≠ quote := by decide
  rw [hescape]
  show stringBody (backslash :: letterU :: a :: b :: c :: d :: cs) = _
  rw [stringBody.eq_def]
  simp only [if_neg hquote, ne_eq, not_true_eq_false, if_false, if_true, hquad]

theorem escaped?_unicodeEscape {n : Nat} (h : n < 0x10000) (cs : Text) :
    escaped? (Text.ofChars (unicodeEscape n) ++ cs) = some (CodePoint.ofNat n) := by
  obtain ⟨a, b, c, d, hescape, hquad⟩ := exists_unicodeEscape h
  rw [hescape, ← hquad]
  rfl

theorem CodePoint.ofNat_val (c : CodePoint) : CodePoint.ofNat c.val = c :=
  Fin.ext (CodePoint.val_ofNat c.isLt)

def highHalf (c : CodePoint) : Nat :=
  0xD800 + (c.val - 0x10000) / 0x400

def lowHalf (c : CodePoint) : Nat :=
  0xDC00 + (c.val - 0x10000) % 0x400

/-- How a code point stands in a literal. -/
inductive Rendering (c : CodePoint) : Prop
  | plain : renderPoint c = [c.toChar] → c ≠ quote → c ≠ backslash → 0x20 ≤ c.val →
      c.val < 0x7F → Rendering c
  | letter (e : Char) : renderPoint c = ['\\', e] → escape? e = some c → c.val < 0x7F → Rendering c
  | short : renderPoint c = unicodeEscape c.val → c.val < 0x10000 → Rendering c
  | long : renderPoint c = unicodeEscape (highHalf c) ++ unicodeEscape (lowHalf c) →
      0x10000 ≤ c.val → Rendering c

theorem rendering (c : CodePoint) : Rendering c := by
  have hletter : ∀ e d : Char, c = .ofChar d → escape? e = some (.ofChar d) → d.toNat < 0x7F →
      renderPoint (.ofChar d) = ['\\', e] → Rendering c := by
    rintro e d rfl he hd hrender
    exact .letter e hrender he hd
  by_cases hquote : c = .ofChar '"'
  · exact hletter '"' _ hquote rfl (by decide) rfl
  by_cases hbackslash : c = .ofChar '\\'
  · exact hletter '\\' _ hbackslash rfl (by decide) rfl
  by_cases hnewline : c = .ofChar '\n'
  · exact hletter 'n' _ hnewline rfl (by decide) rfl
  by_cases hreturn : c = .ofChar '\r'
  · exact hletter 'r' _ hreturn rfl (by decide) rfl
  by_cases htab : c = .ofChar '\t'
  · exact hletter 't' _ htab rfl (by decide) rfl
  by_cases hback : c = .ofChar '\x08'
  · exact hletter 'b' _ hback rfl (by decide) rfl
  by_cases hfeed : c = .ofChar '\x0c'
  · exact hletter 'f' _ hfeed rfl (by decide) rfl
  have hrender : renderPoint c = if 0x20 ≤ c.val ∧ c.val < 0x7F then [c.toChar]
      else if c.val < 0x10000 then unicodeEscape c.val
      else unicodeEscape (highHalf c) ++ unicodeEscape (lowHalf c) := by
    simp only [renderPoint, hquote, hbackslash, hnewline, hreturn, htab, hback, hfeed, if_false]
    rfl
  split_ifs at hrender with hplain hshort
  · exact .plain hrender hquote hbackslash hplain.1 hplain.2
  · exact .short hrender hshort
  · exact .long hrender (Nat.not_lt.mp hshort)

/-! ### Pairs -/

theorem isPair_eq_false_of_lt_left {a b : CodePoint} (h : a.val < 0xD800) : isPair a b = false := by
  simp only [isPair, Bool.and_eq_false_iff, decide_eq_false_iff_not]
  omega

theorem isPair_eq_false_of_le_left {a b : CodePoint} (h : 0xDC00 ≤ a.val) : isPair a b = false := by
  simp only [isPair, Bool.and_eq_false_iff, decide_eq_false_iff_not]
  omega

theorem isPair_eq_false_of_lt_right {a b : CodePoint} (h : b.val < 0xDC00) : isPair a b = false := by
  simp only [isPair, Bool.and_eq_false_iff, decide_eq_false_iff_not]
  omega

theorem isPair_eq_false_of_le_right {a b : CodePoint} (h : 0x10000 ≤ b.val) :
    isPair a b = false := by
  simp only [isPair, Bool.and_eq_false_iff, decide_eq_false_iff_not]
  omega

theorem isPair_of_isPair {a b d : CodePoint} (h : isPair a b = true) : isPair b d = false := by
  simp only [isPair, Bool.and_eq_true, decide_eq_true_eq] at h
  exact isPair_eq_false_of_le_left h.1.2

theorem joinPairs_cons {t : Text} (h : ∀ d ∈ t.head?, isPair c d = false) :
    joinPairs (c :: t) = c :: joinPairs t := by
  cases t with
  | nil => rfl
  | cons d t =>
    have hd : isPair c d = false := h d rfl
    simp [joinPairs, hd]

theorem attach_of_isPair {p q : CodePoint} {after read : Text} (hnext : escaped? after = some q)
    (h : isPair p q = true) : attach p after read = ofPair p q :: read.tail := by
  simp [attach, hnext, h]

theorem attach_of_not_isPair {p : CodePoint} {after read : Text}
    (h : ∀ q ∈ escaped? after, isPair p q = false) : attach p after read = p :: read := by
  unfold attach
  split
  · rename_i q hq
    simp [h q hq]
  · rfl

theorem isPair_halves (h : 0x10000 ≤ c.val) :
    isPair (.ofNat (highHalf c)) (.ofNat (lowHalf c)) = true ∧
      ofPair (.ofNat (highHalf c)) (.ofNat (lowHalf c)) = c := by
  have hlt := c.isLt
  unfold highHalf lowHalf
  have hhigh : (CodePoint.ofNat (0xD800 + (c.val - 0x10000) / 0x400)).val = _ :=
    CodePoint.val_ofNat (by omega)
  have hlow : (CodePoint.ofNat (0xDC00 + (c.val - 0x10000) % 0x400)).val = _ :=
    CodePoint.val_ofNat (by omega)
  constructor
  · simp only [isPair, hhigh, hlow, Bool.and_eq_true, decide_eq_true_eq]
    omega
  · refine Fin.ext ?_
    rw [ofPair, hhigh, hlow, CodePoint.val_ofNat (by omega)]
    omega

/-! ### Reading what was written -/

theorem escaped?_eq_none {e u : CodePoint} (h : e ≠ backslash ∨ u ≠ letterU) (cs : Text) :
    escaped? (e :: u :: cs) = none := by
  have hnot : ¬ (e = backslash ∧ u = letterU) := not_and_or.mpr h
  unfold escaped?
  split
  · simp_all
  · rfl

theorem escaped?_of_ne {e : CodePoint} (h : e ≠ backslash) (cs : Text) : escaped? (e :: cs) = none := by
  cases cs with
  | nil => rfl
  | cons u cs => exact escaped?_eq_none (.inl h) cs

theorem isPair_of_escaped? {d q : CodePoint} {cs : Text} (h : isPair c d = false)
    (hq : escaped? (Text.ofChars (renderPoint d) ++ cs) = some q) : isPair c q = false := by
  cases rendering d with
  | plain hrender _ hbackslash hlow hhigh =>
    have hscalar : d.isSurrogate = false := by
      simp only [CodePoint.isSurrogate, Bool.and_eq_false_iff, decide_eq_false_iff_not]
      omega
    rw [hrender, Text.ofChars_cons, CodePoint.ofChar_toChar hscalar, List.cons_append,
      escaped?_of_ne hbackslash] at hq
    cases hq
  | letter e hrender he _ =>
    have hu : CodePoint.ofChar e ≠ letterU := by
      intro h
      rw [h, escape?_letterU] at he
      cases he
    rw [hrender, Text.ofChars_cons, Text.ofChars_cons, List.cons_append, List.cons_append,
      escaped?_eq_none (.inr hu)] at hq
    cases hq
  | short hrender hshort =>
    rw [hrender, escaped?_unicodeEscape hshort, CodePoint.ofNat_val] at hq
    exact Option.some.inj hq ▸ h
  | long hrender hlong =>
    have hlt := d.isLt
    have hhigh : highHalf d < 0xDC00 := by unfold highHalf; omega
    rw [hrender, Text.ofChars_append, List.append_assoc, escaped?_unicodeEscape (by omega)] at hq
    obtain rfl := Option.some.inj hq
    refine isPair_eq_false_of_lt_right ?_
    rwa [CodePoint.val_ofNat (by omega)]

theorem escaped?_of_isPair {d : CodePoint} (h : isPair c d = true) (cs : Text) :
    escaped? (Text.ofChars (renderPoint d) ++ cs) = some d := by
  have hd : 0xDC00 ≤ d.val ∧ d.val < 0xE000 := by
    simp only [isPair, Bool.and_eq_true, decide_eq_true_eq] at h
    exact ⟨h.1.2, h.2⟩
  cases rendering d with
  | plain _ _ _ _ hhigh => omega
  | letter _ _ _ hhigh => omega
  | short hrender hshort => rw [hrender, escaped?_unicodeEscape hshort, CodePoint.ofNat_val]
  | long _ hlong => omega

theorem attach_rendered (c : CodePoint) (t cs : Text) :
    attach c (Text.ofChars (t.flatMap renderPoint) ++ quote :: cs) (joinPairs t) =
      joinPairs (c :: t) := by
  cases t with
  | nil =>
    have hend : escaped? (quote :: cs) = none := escaped?_of_ne (by decide) cs
    exact attach_of_not_isPair fun q hq => by
      rw [List.flatMap_nil, Text.ofChars_nil, List.nil_append, hend] at hq
      cases hq
  | cons d t =>
    rw [List.flatMap_cons, Text.ofChars_append, List.append_assoc]
    cases hpair : isPair c d with
    | true =>
      have hsecond : joinPairs (d :: t) = d :: joinPairs t :=
        joinPairs_cons fun _ _ => isPair_of_isPair hpair
      rw [attach_of_isPair (escaped?_of_isPair hpair _) hpair, hsecond, joinPairs, if_pos hpair]
      rfl
    | false =>
      rw [attach_of_not_isPair fun q hq => isPair_of_escaped? hpair hq, joinPairs_cons (c := c)]
      intro e he
      exact Option.some.inj he ▸ hpair

theorem stringBody_flatMap_renderPoint (t cs : Text) :
    stringBody (Text.ofChars (t.flatMap renderPoint) ++ quote :: cs) = .ok (joinPairs t, cs) := by
  induction t with
  | nil => exact stringBody_quote cs
  | cons c t ih =>
    rw [List.flatMap_cons, Text.ofChars_append, List.append_assoc]
    cases rendering c with
    | plain hrender hquote hbackslash hlow hhigh =>
      have hscalar : c.isSurrogate = false := by
        simp only [CodePoint.isSurrogate, Bool.and_eq_false_iff, decide_eq_false_iff_not]
        omega
      rw [hrender, Text.ofChars_cons, CodePoint.ofChar_toChar hscalar, List.cons_append,
        stringBody_plain hquote hbackslash hlow, Text.ofChars_nil, List.nil_append, ih,
        joinPairs_cons fun _ _ => isPair_eq_false_of_lt_left (by omega)]
      rfl
    | letter e hrender he hhigh =>
      rw [hrender, Text.ofChars_cons, Text.ofChars_cons, List.cons_append, List.cons_append,
        stringBody_letter he, Text.ofChars_nil, List.nil_append, ih,
        joinPairs_cons fun _ _ => isPair_eq_false_of_lt_left (by omega)]
      rfl
    | short hrender hshort =>
      rw [hrender, stringBody_unicodeEscape hshort, ih, CodePoint.ofNat_val]
      exact congrArg (fun s => Except.ok (s, cs)) (attach_rendered c t cs)
    | long hrender hlong =>
      have hlt := c.isLt
      have hhigh : highHalf c < 0x10000 := by unfold highHalf; omega
      have hlow : 0xDC00 ≤ lowHalf c ∧ lowHalf c < 0x10000 := by unfold lowHalf; omega
      obtain ⟨hpair, hjoin⟩ := isPair_halves hlong
      have hsecond : ∀ after read, attach (.ofNat (lowHalf c)) after read = .ofNat (lowHalf c) :: read :=
        fun _ _ => attach_of_not_isPair fun _ _ => isPair_of_isPair hpair
      rw [hrender, Text.ofChars_append, List.append_assoc, stringBody_unicodeEscape hhigh,
        stringBody_unicodeEscape hlow.2, ih]
      simp only [Except.map, hsecond, attach_of_isPair (escaped?_unicodeEscape hlow.2 _) hpair, hjoin,
        List.tail_cons, joinPairs_cons fun _ _ => isPair_eq_false_of_le_left (show 0xDC00 ≤ c.val by omega)]

/-- No high surrogate stands directly before a low one: the text is not changed by joining pairs. -/
def Unpaired (t : Text) : Prop :=
  t.IsChain fun a b => isPair a b = false

instance : DecidablePred Unpaired :=
  fun t => inferInstanceAs (Decidable (t.IsChain _))

theorem joinPairs_of_unpaired {t : Text} (h : Unpaired t) : joinPairs t = t := by
  induction t with
  | nil => rfl
  | cons c t ih =>
    rw [joinPairs_cons (List.isChain_cons.mp h).1, ih h.tail]

theorem le_val_ofPair {a b : CodePoint} (h : isPair a b = true) : 0x10000 ≤ (ofPair a b).val := by
  simp only [isPair, Bool.and_eq_true, decide_eq_true_eq] at h
  rw [ofPair, CodePoint.val_ofNat (by omega)]
  omega

theorem unpaired_cons_joinPairs {c : CodePoint} {t : Text}
    (h : ∀ d ∈ t.head?, isPair c d = false) : Unpaired (c :: joinPairs t) := by
  match t with
  | [] => exact List.IsChain.singleton c
  | [a] => exact List.isChain_cons_cons.mpr ⟨h a rfl, List.IsChain.singleton a⟩
  | a :: b :: t =>
    rw [joinPairs]
    split
    · rename_i hpair
      have hlarge := le_val_ofPair hpair
      refine List.isChain_cons_cons.mpr
        ⟨isPair_eq_false_of_le_right hlarge, unpaired_cons_joinPairs fun d _ => ?_⟩
      exact isPair_eq_false_of_le_left (by omega)
    · rename_i hpair
      refine List.isChain_cons_cons.mpr ⟨h a rfl, unpaired_cons_joinPairs fun d hd => ?_⟩
      obtain rfl := Option.some.inj hd
      simpa using hpair

theorem unpaired_joinPairs (t : Text) : Unpaired (joinPairs t) := by
  have hfirst : ∀ d ∈ t.head?, isPair 0x10FFFF d = false :=
    fun d _ => isPair_eq_false_of_le_left (by decide)
  exact (unpaired_cons_joinPairs hfirst).tail

theorem Unpaired.part {s t : Text} (h : Unpaired t) (hs : s <:+: t) : Unpaired s :=
  List.IsChain.infix h hs

theorem unpaired_of_no_high {t : Text} (h : ∀ c ∈ t, c.val < 0xD800 ∨ 0xDC00 ≤ c.val) :
    Unpaired t := by
  refine List.Pairwise.isChain (List.pairwise_of_forall_mem_list fun a ha b _ => ?_)
  have hc := h a ha
  simp only [isPair, Bool.and_eq_false_iff, decide_eq_false_iff_not]
  omega

theorem unpaired_ofString (s : String) : Unpaired (Text.ofString s) := by
  refine unpaired_of_no_high fun c hc => ?_
  obtain ⟨d, -, rfl⟩ := List.mem_map.mp hc
  have hscalar := CodePoint.isSurrogate_ofChar d
  simp only [CodePoint.isSurrogate, Bool.and_eq_false_iff, decide_eq_false_iff_not] at hscalar
  omega

theorem unpaired_decodeText (bs : Bytes) : Unpaired (Utf8.decodeText bs) :=
  unpaired_of_no_high fun _ hc => Utf8.lt_or_le_of_mem_decodeText hc

end Json

end MemoryShell
