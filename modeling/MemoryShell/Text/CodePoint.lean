/-!
Text is a list of code points. A `String` holds scalar values only, while a line, a name of a file or a
literal may hold a surrogate that stands alone. `Text.ofString` loses nothing; `Text.toString` replaces
what a `String` cannot hold.
-/

set_option autoImplicit false

namespace MemoryShell

/-- A code point, surrogates included. -/
abbrev CodePoint := Fin 0x110000

/-- A sequence of code points. -/
abbrev Text := List CodePoint

/-- A sequence of octets. -/
abbrev Bytes := List UInt8

namespace CodePoint

def ofChar (c : Char) : CodePoint :=
  ⟨c.toNat, by
    have h := c.valid
    simp only [UInt32.isValidChar, Nat.isValidChar] at h
    show c.val.toNat < 0x110000
    omega⟩

def ofNat (n : Nat) : CodePoint :=
  ⟨n % 0x110000, Nat.mod_lt n (by decide)⟩

def isSurrogate (c : CodePoint) : Bool :=
  0xD800 ≤ c.val && c.val < 0xE000

theorem isSurrogate_ofChar (c : Char) : (ofChar c).isSurrogate = false := by
  have h := c.valid
  simp only [UInt32.isValidChar, Nat.isValidChar] at h
  have hval : (ofChar c).val = c.val.toNat := rfl
  simp only [isSurrogate, hval, Bool.and_eq_false_iff, decide_eq_false_iff_not]
  omega

def replacement : Char := '\uFFFD'

def toChar (c : CodePoint) : Char :=
  if h : c.val.isValidChar then Char.ofNatAux c.val h else replacement

instance : Coe Char CodePoint := ⟨ofChar⟩

theorem toChar_ofChar (c : Char) : toChar (ofChar c) = c := by
  have h : (ofChar c).val.isValidChar := c.valid
  have hc := Char.ofNat_toNat c
  rw [Char.ofNat, dif_pos (show c.toNat.isValidChar from c.valid)] at hc
  rw [toChar, dif_pos h]
  exact hc

theorem ofChar_toChar {c : CodePoint} (h : c.isSurrogate = false) : ofChar (toChar c) = c := by
  have hvalid : c.val.isValidChar := by
    have hlt := c.isLt
    simp only [isSurrogate, Bool.and_eq_false_iff, decide_eq_false_iff_not] at h
    simp only [Nat.isValidChar]
    omega
  rw [toChar, dif_pos hvalid]
  exact Fin.ext rfl

@[simp] theorem ofChar_inj {a b : Char} : ofChar a = ofChar b ↔ a = b :=
  ⟨fun h => by rw [← toChar_ofChar a, h, toChar_ofChar], congrArg ofChar⟩

end CodePoint

namespace Text

def ofChars (cs : List Char) : Text :=
  cs.map CodePoint.ofChar

def ofString (s : String) : Text :=
  ofChars s.toList

instance : Coe String Text := ⟨ofString⟩

@[simp] theorem ofChars_nil : ofChars [] = [] := rfl

@[simp] theorem ofChars_cons (c : Char) (cs : List Char) :
    ofChars (c :: cs) = CodePoint.ofChar c :: ofChars cs := rfl

@[simp] theorem ofChars_append (cs ds : List Char) : ofChars (cs ++ ds) = ofChars cs ++ ofChars ds :=
  List.map_append

def toString (t : Text) : String :=
  String.ofList (t.map CodePoint.toChar)

/-- The pieces between the separators. -/
def split (separator : CodePoint) : Text → List Text
  | [] => [[]]
  | c :: t =>
    if c = separator then [] :: split separator t
    else
      match split separator t with
      | [] => [[c]]
      | p :: ps => (c :: p) :: ps

def before : Text → Text → Bool
  | _, [] => false
  | [], _ :: _ => true
  | a :: s, b :: t => a.val < b.val || (a.val == b.val && before s t)

theorem toString_ofString (s : String) : toString (ofString s) = s := by
  simp [toString, ofString, ofChars, Function.comp_def, CodePoint.toChar_ofChar]

@[simp] theorem ofString_inj {a b : String} : ofString a = ofString b ↔ a = b :=
  ⟨fun h => by rw [← toString_ofString a, h, toString_ofString], congrArg ofString⟩

@[simp] theorem ofString_append (a b : String) : ofString (a ++ b) = ofString a ++ ofString b := by
  simp [ofString, ofChars]

def string? (t : Text) : Option String :=
  if t.any CodePoint.isSurrogate then none else some t.toString

theorem string?_ofString (s : String) : string? (ofString s) = some s := by
  have hnone : (ofString s).any CodePoint.isSurrogate = false := by
    simp [ofString, ofChars, CodePoint.isSurrogate_ofChar]
  rw [string?, hnone, toString_ofString]
  rfl

theorem eq_ofString_of_string? {t : Text} {s : String} (h : string? t = some s) : t = ofString s := by
  rw [string?] at h
  split at h
  · cases h
  · rename_i hnone
    obtain rfl := Option.some.inj h
    rw [ofString, ofChars, toString, String.toList_ofList, List.map_map]
    refine (List.map_id t).symm.trans (List.map_congr_left fun c hc => ?_)
    have hc' : c.isSurrogate = false := by
      simpa using fun hs => hnone (List.any_eq_true.mpr ⟨c, hc, hs⟩)
    exact (CodePoint.ofChar_toChar hc').symm

def inRanges (ranges : List (Nat × Nat)) (n : Nat) : Bool :=
  ranges.any fun r => r.1 ≤ n && n ≤ r.2

theorem inRanges_iff {ranges : List (Nat × Nat)} {n : Nat} :
    inRanges ranges n = true ↔ ∃ r ∈ ranges, r.1 ≤ n ∧ n ≤ r.2 := by
  simp [inRanges]

abbrev newline : CodePoint := '\n'

def blankRanges : List (Nat × Nat) := [
  (0x9, 0xD), (0x1C, 0x20), (0x85, 0x85), (0xA0, 0xA0), (0x1680, 0x1680), (0x2000, 0x200A),
  (0x2028, 0x2029), (0x202F, 0x202F), (0x205F, 0x205F), (0x3000, 0x3000)]

def isBlank (c : CodePoint) : Bool :=
  inRanges blankRanges c.val

def stripLeft (t : Text) : Text :=
  t.dropWhile isBlank

def stripRight (t : Text) : Text :=
  (stripLeft t.reverse).reverse

def strip (t : Text) : Text :=
  stripRight (stripLeft t)

end Text

end MemoryShell
