import MemoryShell.Proofs.Text.Utf8

set_option autoImplicit false

namespace MemoryShell.Utf8

section

variable {b least greatest : UInt8} {number : Nat} {taken : Bytes}

theorem piecesFrom_start (b : UInt8) (bs : Bytes) :
    piecesFrom .start (b :: bs) = (first b).1.toList ++ piecesFrom (first b).2 bs := rfl

theorem piecesFrom_last (hl : least ≤ b) (hu : b ≤ greatest) (bs : Bytes) :
    piecesFrom (.inside 1 least greatest number taken) (b :: bs) =
      .scalar (number * 64 + (b.toNat - 0x80)) :: piecesFrom .start bs := by
  rw [piecesFrom, step, if_pos (by simp [hl, hu]), if_pos rfl]
  rfl

theorem piecesFrom_next (k : Nat) (hl : least ≤ b) (hu : b ≤ greatest) (bs : Bytes) :
    piecesFrom (.inside (k + 2) least greatest number taken) (b :: bs) =
      piecesFrom (.inside (k + 1) 0x80 0xBF (number * 64 + (b.toNat - 0x80)) (taken ++ [b])) bs := by
  rw [piecesFrom, step, if_pos (by simp [hl, hu]), if_neg (by omega)]
  rfl

theorem first_of_two (hl : 0xC2 ≤ b.toNat) (hu : b.toNat < 0xE0) :
    first b = (none, .inside 1 0x80 0xBF (b.toNat - 0xC0) [b]) := by
  have h80 : ¬ b < 0x80 := fun h => absurd (show b.toNat < 0x80 from h) (by omega)
  have hC2 : ¬ b < 0xC2 := fun h => absurd (show b.toNat < 0xC2 from h) (by omega)
  rw [first, if_neg h80, if_neg hC2, if_pos (show b < 0xE0 from hu)]

theorem first_of_three (hl : 0xE0 ≤ b.toNat) (hu : b.toNat < 0xF0) :
    first b = (none, .inside 2 (if b = 0xE0 then 0xA0 else 0x80)
      (if b = 0xED then 0x9F else 0xBF) (b.toNat - 0xE0) [b]) := by
  have h80 : ¬ b < 0x80 := fun h => absurd (show b.toNat < 0x80 from h) (by omega)
  have hC2 : ¬ b < 0xC2 := fun h => absurd (show b.toNat < 0xC2 from h) (by omega)
  have hE0 : ¬ b < 0xE0 := fun h => absurd (show b.toNat < 0xE0 from h) (by omega)
  rw [first, if_neg h80, if_neg hC2, if_neg hE0, if_pos (show b < 0xF0 from hu)]

theorem first_of_four (hl : 0xF0 ≤ b.toNat) (hu : b.toNat < 0xF5) :
    first b = (none, .inside 3 (if b = 0xF0 then 0x90 else 0x80)
      (if b = 0xF4 then 0x8F else 0xBF) (b.toNat - 0xF0) [b]) := by
  have h80 : ¬ b < 0x80 := fun h => absurd (show b.toNat < 0x80 from h) (by omega)
  have hC2 : ¬ b < 0xC2 := fun h => absurd (show b.toNat < 0xC2 from h) (by omega)
  have hE0 : ¬ b < 0xE0 := fun h => absurd (show b.toNat < 0xE0 from h) (by omega)
  have hF0 : ¬ b < 0xF0 := fun h => absurd (show b.toNat < 0xF0 from h) (by omega)
  rw [first, if_neg h80, if_neg hC2, if_neg hE0, if_neg hF0, if_pos (show b < 0xF5 from hu)]

end

theorem toNat_ofNat {n : Nat} (h : n < 256) : (UInt8.ofNat n).toNat = n := by
  rw [UInt8.toNat_ofNat']
  exact Nat.mod_eq_of_lt h

theorem continuing {m : Nat} (h : m < 64) :
    (0x80 : UInt8) ≤ UInt8.ofNat (0x80 + m) ∧ UInt8.ofNat (0x80 + m) ≤ 0xBF ∧
      (UInt8.ofNat (0x80 + m)).toNat - 0x80 = m := by
  have hval := toNat_ofNat (n := 0x80 + m) (by omega)
  refine ⟨?_, ?_, by omega⟩
  · show 0x80 ≤ (UInt8.ofNat (0x80 + m)).toNat
    omega
  · show (UInt8.ofNat (0x80 + m)).toNat ≤ 0xBF
    omega

section

variable {b special : UInt8} {m : Nat} (hm : m < 64)

include hm

theorem least_le {least : UInt8} (h : b = special → least.toNat ≤ 0x80 + m) :
    (if b = special then least else 0x80) ≤ UInt8.ofNat (0x80 + m) := by
  split
  · next heq =>
    show least.toNat ≤ (UInt8.ofNat (0x80 + m)).toNat
    rw [toNat_ofNat (by omega)]
    exact h heq
  · exact (continuing hm).1

theorem le_greatest {greatest : UInt8} (h : b = special → 0x80 + m ≤ greatest.toNat) :
    UInt8.ofNat (0x80 + m) ≤ (if b = special then greatest else 0xBF) := by
  split
  · next heq =>
    show (UInt8.ofNat (0x80 + m)).toNat ≤ greatest.toNat
    rw [toNat_ofNat (by omega)]
    exact h heq
  · exact (continuing hm).2.1

end

section

variable {n : Nat} (bs : Bytes)

theorem piecesFrom_one (h : n < 0x80) :
    piecesFrom .start (UInt8.ofNat n :: bs) = .scalar n :: piecesFrom .start bs := by
  have hval := toNat_ofNat (n := n) (by omega)
  have hsmall : UInt8.ofNat n < 0x80 := by
    show (UInt8.ofNat n).toNat < 0x80
    omega
  rw [piecesFrom_start, first, if_pos hsmall, hval]
  rfl

theorem piecesFrom_two (hl : 0x80 ≤ n) (hu : n < 0x800) :
    piecesFrom .start (UInt8.ofNat (0xC0 + n / 64) :: UInt8.ofNat (0x80 + n % 64) :: bs) =
      .scalar n :: piecesFrom .start bs := by
  obtain ⟨hdl, hdu, hd⟩ := continuing (m := n % 64) (Nat.mod_lt _ (by decide))
  have hval := toNat_ofNat (n := 0xC0 + n / 64) (by omega)
  rw [piecesFrom_start, first_of_two (by omega) (by omega)]
  simp only [Option.toList_none, List.nil_append]
  rw [piecesFrom_last hdl hdu, hd, hval, show (0xC0 + n / 64 - 0xC0) * 64 + n % 64 = n by omega]

theorem piecesFrom_three (h : IsScalar n) (hl : 0x800 ≤ n) (hu : n < 0x10000) :
    piecesFrom .start (UInt8.ofNat (0xE0 + n / 4096) :: UInt8.ofNat (0x80 + n / 64 % 64) ::
      UInt8.ofNat (0x80 + n % 64) :: bs) = .scalar n :: piecesFrom .start bs := by
  unfold IsScalar at h
  obtain ⟨hdl, hdu, hd⟩ := continuing (m := n % 64) (Nat.mod_lt _ (by decide))
  have hc6 : n / 64 % 64 < 64 := Nat.mod_lt _ (by decide)
  obtain ⟨-, -, hc⟩ := continuing hc6
  have hval := toNat_ofNat (n := 0xE0 + n / 4096) (by omega)
  have hleast : (if UInt8.ofNat (0xE0 + n / 4096) = 0xE0 then 0xA0 else 0x80) ≤
      UInt8.ofNat (0x80 + n / 64 % 64) := by
    refine least_le hc6 fun heq => ?_
    have hE0 : 0xE0 + n / 4096 = 0xE0 := hval.symm.trans (congrArg UInt8.toNat heq)
    show 0xA0 ≤ 0x80 + n / 64 % 64
    omega
  have hgreatest : UInt8.ofNat (0x80 + n / 64 % 64) ≤
      (if UInt8.ofNat (0xE0 + n / 4096) = 0xED then 0x9F else 0xBF) := by
    refine le_greatest hc6 fun heq => ?_
    have hED : 0xE0 + n / 4096 = 0xED := hval.symm.trans (congrArg UInt8.toNat heq)
    show 0x80 + n / 64 % 64 ≤ 0x9F
    omega
  rw [piecesFrom_start, first_of_three (by omega) (by omega)]
  simp only [Option.toList_none, List.nil_append]
  rw [piecesFrom_next 0 hleast hgreatest, piecesFrom_last hdl hdu, hc, hd, hval,
    show ((0xE0 + n / 4096 - 0xE0) * 64 + n / 64 % 64) * 64 + n % 64 = n by omega]

theorem piecesFrom_four (h : IsScalar n) (hl : 0x10000 ≤ n) :
    piecesFrom .start (UInt8.ofNat (0xF0 + n / 262144) :: UInt8.ofNat (0x80 + n / 4096 % 64) ::
      UInt8.ofNat (0x80 + n / 64 % 64) :: UInt8.ofNat (0x80 + n % 64) :: bs) =
        .scalar n :: piecesFrom .start bs := by
  have hlt := h.lt
  obtain ⟨hdl, hdu, hd⟩ := continuing (m := n % 64) (Nat.mod_lt _ (by decide))
  obtain ⟨hcl, hcu, hc⟩ := continuing (m := n / 64 % 64) (Nat.mod_lt _ (by decide))
  have hb6 : n / 4096 % 64 < 64 := Nat.mod_lt _ (by decide)
  obtain ⟨-, -, hb⟩ := continuing hb6
  have hval := toNat_ofNat (n := 0xF0 + n / 262144) (by omega)
  have hleast : (if UInt8.ofNat (0xF0 + n / 262144) = 0xF0 then 0x90 else 0x80) ≤
      UInt8.ofNat (0x80 + n / 4096 % 64) := by
    refine least_le hb6 fun heq => ?_
    have hF0 : 0xF0 + n / 262144 = 0xF0 := hval.symm.trans (congrArg UInt8.toNat heq)
    show 0x90 ≤ 0x80 + n / 4096 % 64
    omega
  have hgreatest : UInt8.ofNat (0x80 + n / 4096 % 64) ≤
      (if UInt8.ofNat (0xF0 + n / 262144) = 0xF4 then 0x8F else 0xBF) := by
    refine le_greatest hb6 fun heq => ?_
    have hF4 : 0xF0 + n / 262144 = 0xF4 := hval.symm.trans (congrArg UInt8.toNat heq)
    show 0x80 + n / 4096 % 64 ≤ 0x8F
    omega
  rw [piecesFrom_start, first_of_four (by omega) (by omega)]
  simp only [Option.toList_none, List.nil_append]
  rw [piecesFrom_next 1 hleast hgreatest, piecesFrom_next 0 hcl hcu, piecesFrom_last hdl hdu, hb,
    hc, hd, hval, show (((0xF0 + n / 262144 - 0xF0) * 64 + n / 4096 % 64) * 64 + n / 64 % 64) * 64 +
      n % 64 = n by omega]

theorem piecesFrom_encodeNat (h : IsScalar n) :
    piecesFrom .start (encodeNat n ++ bs) = .scalar n :: piecesFrom .start bs := by
  unfold encodeNat
  split
  · next h1 => exact piecesFrom_one bs h1
  split
  · next h1 h2 => exact piecesFrom_two bs (Nat.not_lt.mp h1) h2
  split
  · next h1 h2 h3 => exact piecesFrom_three bs h (Nat.not_lt.mp h2) h3
  · next h1 h2 h3 => exact piecesFrom_four bs h (Nat.not_lt.mp h3)

end

theorem isScalar_toNat (c : Char) : IsScalar c.toNat := by
  have hc := c.valid
  simp only [UInt32.isValidChar, Nat.isValidChar] at hc
  unfold IsScalar Char.toNat
  omega

theorem decode_encode (s : String) : decode (encode s) = s := by
  have hchars : ∀ cs : List Char, decodeChars (encodeChars cs) = cs := by
    intro cs
    induction cs with
    | nil => rfl
    | cons c cs ih =>
      rw [decodeChars, pieces, encodeChars, List.flatMap_cons,
        piecesFrom_encodeNat _ (isScalar_toNat c), List.map_cons, Piece.shown, Char.ofNat_toNat]
      exact congrArg (c :: ·) ih
  rw [decode, encode, hchars, String.ofList_toList]

end MemoryShell.Utf8
