import MemoryShell.Text.Utf8

set_option autoImplicit false

namespace MemoryShell

theorem CodePoint.val_ofNat {n : Nat} (h : n < 0x110000) : (ofNat n).val = n :=
  Nat.mod_eq_of_lt h

namespace Utf8

theorem isEscapedOctet_of_not_isSurrogate {c : CodePoint} (h : c.isSurrogate = false) :
    isEscapedOctet c = false := by
  simp only [CodePoint.isSurrogate, Bool.and_eq_false_iff, decide_eq_false_iff_not] at h
  simp only [isEscapedOctet, Bool.and_eq_false_iff, decide_eq_false_iff_not]
  omega

theorem encodeText?_ofString (s : String) : encodeText? (Text.ofString s) = some (encode s) := by
  have hchars : ∀ cs : List Char, encodeText? (Text.ofChars cs) = some (encodeChars cs) := by
    intro cs
    induction cs with
    | nil => rfl
    | cons c cs ih =>
      have hsur := CodePoint.isSurrogate_ofChar c
      have hpoint : encodePoint? (.ofChar c) = some (encodeNat c.toNat) := by
        rw [encodePoint?, isEscapedOctet_of_not_isSurrogate hsur, hsur]
        rfl
      rw [Text.ofChars, List.map_cons, encodeText?, hpoint, ← Text.ofChars, ih]
      rfl
  exact hchars s.toList

theorem encodeText?_append (s t : Text) :
    encodeText? (s ++ t) =
      (encodeText? s).bind fun bs => (encodeText? t).map fun cs => bs ++ cs := by
  induction s with
  | nil => simp [encodeText?]
  | cons c s ih =>
    rw [List.cons_append, encodeText?, encodeText?, ih]
    cases encodePoint? c with
    | none => rfl
    | some a =>
      cases encodeText? s with
      | none => rfl
      | some bs =>
        cases encodeText? t with
        | none => rfl
        | some cs => simp

/-- The number of a code point that is no surrogate. -/
def IsScalar (n : Nat) : Prop :=
  n < 0xD800 ∨ 0xE000 ≤ n ∧ n < 0x110000

def Piece.octets : Piece → Bytes
  | .scalar n => encodeNat n
  | .stray octets => octets

/-- A piece that is read as a text with its octets: a scalar is the number of a character, and no
stray octet stands for a character of ASCII. -/
def Piece.Sound : Piece → Prop
  | .scalar n => IsScalar n
  | .stray octets => ∀ b ∈ octets, 0x80 ≤ b

theorem IsScalar.lt {n : Nat} (h : IsScalar n) : n < 0x110000 := by
  unfold IsScalar at h
  omega

theorem encodePoint?_of_isScalar {n : Nat} (h : IsScalar n) :
    encodePoint? (CodePoint.ofNat n) = some (encodeNat n) := by
  have hval := CodePoint.val_ofNat h.lt
  have hsur : (CodePoint.ofNat n).isSurrogate = false := by
    unfold IsScalar at h
    simp only [CodePoint.isSurrogate, hval, Bool.and_eq_false_iff, decide_eq_false_iff_not]
    omega
  simp [encodePoint?, isEscapedOctet_of_not_isSurrogate hsur, hsur, hval]

theorem encodePoint?_stray {b : UInt8} (h : 0x80 ≤ b) :
    encodePoint? (CodePoint.ofNat (0xDC00 + b.toNat)) = some [b] := by
  have hb : 0x80 ≤ b.toNat := h
  have hlt := b.toNat_lt
  have hval : (CodePoint.ofNat (0xDC00 + b.toNat)).val = 0xDC00 + b.toNat :=
    CodePoint.val_ofNat (by omega)
  have hesc : isEscapedOctet (CodePoint.ofNat (0xDC00 + b.toNat)) = true := by
    simp only [isEscapedOctet, hval, Bool.and_eq_true, decide_eq_true_eq]
    omega
  simp [encodePoint?, hesc, hval]

theorem encodeText?_kept {p : Piece} (h : p.Sound) : encodeText? p.kept = some p.octets := by
  cases p with
  | scalar n => simp [Piece.kept, encodeText?, encodePoint?_of_isScalar h, Piece.octets]
  | stray octets =>
    unfold Piece.kept Piece.octets
    induction octets with
    | nil => rfl
    | cons b bs ih =>
      have hb : 0x80 ≤ b := h b List.mem_cons_self
      have hbs := ih fun c hc => h c (List.mem_cons_of_mem b hc)
      simp only at hbs
      simp [encodeText?, encodePoint?_stray hb, hbs]

/-- A sequence can be finished: whatever octets follow, each in its range, the number that comes out
is that of a character, and its octets are all that were taken. -/
def Finishes : Nat → UInt8 → UInt8 → Nat → Bytes → Prop
  | 0, _, _, number, taken => IsScalar number ∧ encodeNat number = taken
  | lacking + 1, least, greatest, number, taken =>
    ∀ b, least ≤ b → b ≤ greatest →
      Finishes lacking 0x80 0xBF (number * 64 + (b.toNat - 0x80)) (taken ++ [b])

def State.taken : State → Bytes
  | .start => []
  | .inside _ _ _ _ taken => taken

def State.Sound : State → Prop
  | .start => True
  | .inside lacking least greatest number taken =>
    lacking ≠ 0 ∧ (∀ b ∈ taken, 0x80 ≤ b) ∧ 0x80 ≤ least ∧
      Finishes lacking least greatest number taken

theorem ofNat_eq {n : Nat} {b : UInt8} (h : n = b.toNat) : UInt8.ofNat n = b := by
  rw [h, UInt8.ofNat_toNat]

theorem finishes_two {b : UInt8} (hl : 0xC2 ≤ b.toNat) (hu : b.toNat < 0xE0) :
    Finishes 1 0x80 0xBF (b.toNat - 0xC0) [b] := by
  intro c hcl hcu
  have hcl : 0x80 ≤ c.toNat := hcl
  have hcu : c.toNat ≤ 0xBF := hcu
  refine ⟨?_, ?_⟩
  · unfold IsScalar
    omega
  · rw [encodeNat, if_neg (by omega), if_pos (by omega), ofNat_eq (b := b) (by omega),
      ofNat_eq (b := c) (by omega)]
    rfl

theorem finishes_three {b : UInt8} (hl : 0xE0 ≤ b.toNat) (hu : b.toNat < 0xF0) :
    Finishes 2 (if b = 0xE0 then 0xA0 else 0x80) (if b = 0xED then 0x9F else 0xBF)
      (b.toNat - 0xE0) [b] := by
  intro c hcl hcu d hdl hdu
  have hleast : 0x80 ≤ c.toNat ∧ (b.toNat = 0xE0 → 0xA0 ≤ c.toNat) := by
    split at hcl
    · rename_i hb
      have hcl : 0xA0 ≤ c.toNat := hcl
      omega
    · rename_i hb
      have hcl : 0x80 ≤ c.toNat := hcl
      exact ⟨hcl, fun h => absurd (UInt8.toNat_inj.mp h) hb⟩
  have hgreatest : c.toNat ≤ 0xBF ∧ (b.toNat = 0xED → c.toNat ≤ 0x9F) := by
    split at hcu
    · rename_i hb
      have hcu : c.toNat ≤ 0x9F := hcu
      omega
    · rename_i hb
      have hcu : c.toNat ≤ 0xBF := hcu
      exact ⟨hcu, fun h => absurd (UInt8.toNat_inj.mp h) hb⟩
  have hdl : 0x80 ≤ d.toNat := hdl
  have hdu : d.toNat ≤ 0xBF := hdu
  refine ⟨?_, ?_⟩
  · unfold IsScalar
    omega
  · rw [encodeNat, if_neg (by omega), if_neg (by omega), if_pos (by omega),
      ofNat_eq (b := b) (by omega), ofNat_eq (b := c) (by omega), ofNat_eq (b := d) (by omega)]
    rfl

theorem finishes_four {b : UInt8} (hl : 0xF0 ≤ b.toNat) (hu : b.toNat < 0xF5) :
    Finishes 3 (if b = 0xF0 then 0x90 else 0x80) (if b = 0xF4 then 0x8F else 0xBF)
      (b.toNat - 0xF0) [b] := by
  intro c hcl hcu d hdl hdu e hel heu
  have hleast : 0x80 ≤ c.toNat ∧ (b.toNat = 0xF0 → 0x90 ≤ c.toNat) := by
    split at hcl
    · rename_i hb
      have hcl : 0x90 ≤ c.toNat := hcl
      omega
    · rename_i hb
      have hcl : 0x80 ≤ c.toNat := hcl
      exact ⟨hcl, fun h => absurd (UInt8.toNat_inj.mp h) hb⟩
  have hgreatest : c.toNat ≤ 0xBF ∧ (b.toNat = 0xF4 → c.toNat ≤ 0x8F) := by
    split at hcu
    · rename_i hb
      have hcu : c.toNat ≤ 0x8F := hcu
      omega
    · rename_i hb
      have hcu : c.toNat ≤ 0xBF := hcu
      exact ⟨hcu, fun h => absurd (UInt8.toNat_inj.mp h) hb⟩
  have hdl : 0x80 ≤ d.toNat := hdl
  have hdu : d.toNat ≤ 0xBF := hdu
  have hel : 0x80 ≤ e.toNat := hel
  have heu : e.toNat ≤ 0xBF := heu
  refine ⟨?_, ?_⟩
  · unfold IsScalar
    omega
  · rw [encodeNat, if_neg (by omega), if_neg (by omega), if_neg (by omega),
      ofNat_eq (b := b) (by omega), ofNat_eq (b := c) (by omega), ofNat_eq (b := d) (by omega),
      ofNat_eq (b := e) (by omega)]
    rfl

theorem sound_first (b : UInt8) :
    (∀ p ∈ (first b).1, p.Sound) ∧ (first b).2.Sound ∧
      (first b).1.toList.flatMap Piece.octets ++ (first b).2.taken = [b] := by
  unfold first
  split
  · rename_i h
    have hb : b.toNat < 0x80 := h
    refine ⟨?_, trivial, ?_⟩
    · intro p hp
      obtain rfl := Option.some.inj hp
      exact .inl (by omega)
    · have hocts : encodeNat b.toNat = [b] := by
        rw [encodeNat, if_pos hb, UInt8.ofNat_toNat]
      simp [Piece.octets, State.taken, hocts]
  rename_i h
  have hb : 0x80 ≤ b := UInt8.not_lt.mp h
  have hstray : ∀ p ∈ some (Piece.stray [b]), p.Sound := by
    intro p hp
    obtain rfl := Option.some.inj hp
    intro c hc
    exact List.mem_singleton.mp hc ▸ hb
  have htaken : ∀ c ∈ [b], (0x80 : UInt8) ≤ c := fun c hc => List.mem_singleton.mp hc ▸ hb
  have hnone : ∀ p ∈ (none : Option Piece), p.Sound := fun p hp => nomatch hp
  split
  · exact ⟨hstray, trivial, rfl⟩
  rename_i hC2
  have hC2 : 0xC2 ≤ b.toNat := UInt8.not_lt.mp hC2
  split
  · rename_i hE0
    exact ⟨hnone, ⟨by decide, htaken, by decide, finishes_two hC2 hE0⟩, rfl⟩
  rename_i hE0
  have hE0 : 0xE0 ≤ b.toNat := UInt8.not_lt.mp hE0
  split
  · rename_i hF0
    refine ⟨hnone, ⟨by decide, htaken, ?_, finishes_three hE0 hF0⟩, rfl⟩
    split <;> decide
  rename_i hF0
  have hF0 : 0xF0 ≤ b.toNat := UInt8.not_lt.mp hF0
  split
  · rename_i hF5
    refine ⟨hnone, ⟨by decide, htaken, ?_, finishes_four hF0 hF5⟩, rfl⟩
    split <;> decide
  · exact ⟨hstray, trivial, rfl⟩

theorem sound_step {s : State} (hs : s.Sound) (b : UInt8) :
    (∀ p ∈ (step s b).1, p.Sound) ∧ (step s b).2.Sound ∧
      (step s b).1.flatMap Piece.octets ++ (step s b).2.taken = s.taken ++ [b] := by
  obtain ⟨hpiece, hstate, hoctets⟩ := sound_first b
  cases s with
  | start => exact ⟨fun p hp => hpiece p (Option.mem_toList.mp hp), hstate, hoctets⟩
  | inside lacking least greatest number taken =>
    obtain ⟨hlacking, htaken, hleast, hfinishes⟩ := hs
    obtain ⟨k, rfl⟩ := Nat.exists_eq_succ_of_ne_zero hlacking
    rw [step]
    by_cases hfit : least ≤ b ∧ b ≤ greatest
    · have hnext := hfinishes b hfit.1 hfit.2
      rw [if_pos (by simpa using hfit)]
      by_cases hlast : k = 0
      · subst hlast
        obtain ⟨hscalar, hall⟩ := hnext
        rw [if_pos rfl]
        refine ⟨?_, trivial, ?_⟩
        · intro p hp
          obtain rfl := List.mem_singleton.mp hp
          exact hscalar
        · simpa [Piece.octets, State.taken] using hall
      · rw [if_neg (by omega)]
        refine ⟨fun p hp => (nomatch hp), ⟨hlast, ?_, by decide, hnext⟩, rfl⟩
        intro c hc
        rcases List.mem_append.mp hc with hc | hc
        · exact htaken c hc
        · exact List.mem_singleton.mp hc ▸ UInt8.le_trans hleast hfit.1
    · rw [if_neg (by simpa using hfit)]
      refine ⟨?_, hstate, ?_⟩
      · intro p hp
        rcases List.mem_cons.mp hp with rfl | hp
        · exact htaken
        · exact hpiece p (Option.mem_toList.mp hp)
      · have hcons : (Piece.stray taken :: (first b).1.toList).flatMap Piece.octets =
            taken ++ (first b).1.toList.flatMap Piece.octets := rfl
        show _ ++ (first b).2.taken = taken ++ [b]
        rw [hcons, List.append_assoc, hoctets]

theorem sound_piecesFrom {s : State} (hs : s.Sound) (bs : Bytes) :
    (∀ p ∈ piecesFrom s bs, p.Sound) ∧
      (piecesFrom s bs).flatMap Piece.octets = s.taken ++ bs := by
  induction bs generalizing s with
  | nil =>
    cases s with
    | start => exact ⟨fun p hp => (nomatch hp), rfl⟩
    | inside lacking least greatest number taken =>
      refine ⟨?_, by simp [piecesFrom, Piece.octets, State.taken]⟩
      intro p hp
      obtain rfl := List.mem_singleton.mp hp
      exact hs.2.1
  | cons b bs ih =>
    obtain ⟨hpieces, hnext, hoctets⟩ := sound_step hs b
    obtain ⟨hrest, hall⟩ := ih hnext
    have hunfold : piecesFrom s (b :: bs) = (step s b).1 ++ piecesFrom (step s b).2 bs := by
      cases s <;> rfl
    rw [hunfold]
    refine ⟨?_, ?_⟩
    · intro p hp
      rcases List.mem_append.mp hp with hp | hp
      · exact hpieces p hp
      · exact hrest p hp
    · rw [List.flatMap_append, hall, ← List.append_assoc, hoctets, List.append_assoc]
      rfl

theorem encodeText?_flatMap_kept {ps : List Piece} (h : ∀ p ∈ ps, p.Sound) :
    encodeText? (ps.flatMap Piece.kept) = some (ps.flatMap Piece.octets) := by
  induction ps with
  | nil => rfl
  | cons p ps ih =>
    have hp : p.Sound := h p List.mem_cons_self
    have hps := ih fun q hq => h q (List.mem_cons_of_mem p hq)
    rw [List.flatMap_cons, encodeText?_append, encodeText?_kept hp, hps]
    rfl

theorem encodeText?_decodeText (bs : Bytes) : encodeText? (decodeText bs) = some bs := by
  obtain ⟨hsound, hoctets⟩ := sound_piecesFrom (s := .start) trivial bs
  rw [decodeText, pieces, encodeText?_flatMap_kept hsound, hoctets]
  rfl

theorem lt_or_le_of_mem_decodeText {bs : Bytes} {c : CodePoint} (hc : c ∈ decodeText bs) :
    c.val < 0xD800 ∨ 0xDC00 ≤ c.val := by
  obtain ⟨p, hp, hkept⟩ := List.mem_flatMap.mp hc
  have hsound : p.Sound := (sound_piecesFrom (s := .start) trivial bs).1 p hp
  cases p with
  | scalar n =>
    obtain rfl := List.mem_singleton.mp hkept
    rw [CodePoint.val_ofNat (IsScalar.lt hsound)]
    unfold Piece.Sound IsScalar at hsound
    omega
  | stray octets =>
    obtain ⟨b, -, rfl⟩ := List.mem_map.mp hkept
    have hb := b.toNat_lt
    rw [CodePoint.val_ofNat (by omega)]
    omega

end Utf8

end MemoryShell
