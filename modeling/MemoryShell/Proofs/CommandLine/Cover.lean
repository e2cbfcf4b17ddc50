import MemoryShell.Proofs.CommandLine.Quoting
import MemoryShell.Proofs.CommandLine.Redirection

set_option autoImplicit false

namespace MemoryShell

namespace Token

/-- What the next character of a text stands in. -/
inductive Cover
  | bare
  | comment
  | quoted (quote : CodePoint)
  | escaped
  | escapedInQuote
  deriving DecidableEq

def Mode.cover : Mode → Cover
  | .between => .bare
  | .comment => .comment
  | .word _ => .bare
  | .operator _ => .bare
  | .quoted quote _ => .quoted quote
  | .escaped _ => .escaped
  | .escapedInQuote _ => .escapedInQuote

namespace Cover

def next : Cover → CodePoint → Cover
  | .bare, c =>
    if c = '#' then .comment
    else if c = escape then .escaped
    else if isQuote c then .quoted c
    else .bare
  | .comment, c => if c = Text.newline then .bare else .comment
  | .quoted quote, c =>
    if c = quote then .bare
    else if c = escape && quote = double then .escapedInQuote
    else .quoted quote
  | .escaped, _ => .bare
  | .escapedInQuote, _ => .quoted double

def after (k : Cover) (cs : Text) : Cover :=
  cs.foldl next k

def shelters : Cover → Bool
  | .quoted _ | .escaped | .escapedInQuote => true
  | .bare | .comment => false

def fault? : Cover → Option Error
  | .quoted _ => some .openQuotation
  | .escaped | .escapedInQuote => some .openEscape
  | .bare | .comment => none

theorem isSome_fault? (k : Cover) : k.fault?.isSome = k.shelters := by
  cases k <;> rfl

@[simp]
theorem after_nil (k : Cover) : k.after [] = k :=
  rfl

@[simp]
theorem after_cons (k : Cover) (c : CodePoint) (cs : Text) : k.after (c :: cs) = (k.next c).after cs :=
  rfl

theorem after_append (k : Cover) (xs ys : Text) : k.after (xs ++ ys) = (k.after xs).after ys :=
  List.foldl_append

end Cover

theorem cover_start (c : CodePoint) : (start c).cover = Cover.bare.next c := by
  simp only [start, Cover.next]
  by_cases hseparator : isSeparator c = true
  · have hcases : c = space ∨ c = '\t' ∨ c = '\r' ∨ c = Text.newline := by
      simpa [isSeparator, or_assoc] using hseparator
    rcases hcases with rfl | rfl | rfl | rfl <;> rfl
  · rw [if_neg hseparator]
    split_ifs <;> rfl

theorem cover_step (m : Mode) (c : CodePoint) : (step m c).2.cover = m.cover.next c := by
  cases m with
  | between => exact cover_start c
  | comment =>
    simp only [step, Mode.cover, Cover.next]
    split_ifs <;> rfl
  | word read =>
    rcases Bool.eq_false_or_eq_true (isQuote c) with hquote | hquote
    · have hcases : c = single ∨ c = double := by simpa [isQuote] using hquote
      rcases hcases with rfl | rfl <;> rfl
    · by_cases hescape : c = escape
      · subst hescape
        rfl
      · simp only [step, hquote, hescape, Bool.false_eq_true, if_false]
        split
        · exact cover_start c
        · rename_i hplain
          have hhash : c ≠ '#' := by
            rintro rfl
            exact hplain rfl
          simp [Mode.cover, Cover.next, hhash, hescape, hquote]
  | operator read =>
    rcases Bool.eq_false_or_eq_true (isOperator c) with hop | hop
    · have hcases : c = '(' ∨ c = ')' ∨ c = ';' ∨ c = '<' ∨ c = CommandLine.sign ∨ c = '|' ∨ c = '&' := by
        simpa [isOperator, or_assoc] using hop
      rcases hcases with rfl | rfl | rfl | rfl | rfl | rfl | rfl <;> rfl
    · simp only [step, hop, Bool.false_eq_true, if_false]
      exact cover_start c
  | quoted quote read =>
    simp only [step, Mode.cover, Cover.next]
    split_ifs <;> rfl
  | escaped read => rfl
  | escapedInQuote read =>
    simp only [step, Mode.cover, Cover.next]
    split_ifs <;> rfl

theorem scan_eq_error_iff (m : Mode) (cs : Text) (e : Error) :
    scan m cs = .error e ↔ (m.cover.after cs).fault? = some e := by
  induction cs generalizing m with
  | nil => cases m <;> simp [scan, Mode.cover, Cover.fault?]
  | cons c cs ih =>
    rw [scan_cons, Cover.after_cons, ← cover_step, ← ih]
    cases scan (step m c).2 cs <;> simp [Except.map]

namespace Cover

open Text

variable {c : CodePoint} {bs : Text} {k : Cover}

theorem next_bare_of_blank (h : isBlank c = true) : bare.next c = bare := by
  have hhash : c ≠ '#' := ne_of_blank h (by decide)
  have hescape : c ≠ escape := ne_of_blank h (by decide)
  have hsingle : c ≠ single := ne_of_blank h (by decide)
  have hdouble : c ≠ double := ne_of_blank h (by decide)
  simp [next, hhash, hescape, isQuote, hsingle, hdouble]

theorem after_bare_of_blank (h : ∀ c ∈ bs, isBlank c = true) : bare.after bs = bare := by
  induction bs with
  | nil => rfl
  | cons c bs ih =>
    rw [after_cons, next_bare_of_blank (h c List.mem_cons_self)]
    exact ih fun d hd => h d (List.mem_cons_of_mem c hd)

theorem of_after_blank {P : Cover → Prop} (hP : ∀ k c, isBlank c = true → P (k.next c) → P k)
    (hbs : ∀ c ∈ bs, isBlank c = true) (h : P (k.after bs)) : P k := by
  induction bs generalizing k with
  | nil => exact h
  | cons c bs ih =>
    have hnext : P (k.next c) := ih (fun d hd => hbs d (List.mem_cons_of_mem c hd)) h
    exact hP k c (hbs c List.mem_cons_self) hnext

theorem shelters_of_next_blank (k : Cover) (c : CodePoint) (hc : isBlank c = true)
    (h : (k.next c).shelters = true) : k.shelters = true := by
  cases k with
  | bare =>
    rw [next_bare_of_blank hc] at h
    exact h
  | comment =>
    simp only [next] at h
    split at h <;> exact h
  | quoted quote => rfl
  | escaped => rfl
  | escapedInQuote => rfl

theorem quoted_of_next_blank (k : Cover) (c : CodePoint) (hc : isBlank c = true)
    (h : k.next c = .quoted single) : k = .quoted single := by
  cases k with
  | bare =>
    rw [next_bare_of_blank hc] at h
    cases h
  | comment =>
    simp only [next] at h
    split at h <;> cases h
  | quoted quote =>
    simp only [next] at h
    split_ifs at h
    exact h
  | escaped => cases h
  | escapedInQuote => simp [next] at h

theorem of_strip {P : Cover → Prop} (hP : ∀ k c, isBlank c = true → P (k.next c) → P k)
    {cs : Text} (h : P (bare.after cs)) : P (bare.after (strip cs)) := by
  obtain ⟨front, hfront, hcs⟩ := exists_blank_stripLeft cs
  obtain ⟨back, hback, hrest⟩ := exists_blank_stripRight (stripLeft cs)
  have hafter : bare.after cs = (bare.after (strip cs)).after back := by
    calc bare.after cs = bare.after (front ++ stripLeft cs) := by rw [← hcs]
      _ = bare.after (stripLeft cs) := by rw [after_append, after_bare_of_blank hfront]
      _ = bare.after (strip cs ++ back) := by rw [strip, ← hrest]
      _ = (bare.after (strip cs)).after back := after_append _ _ _
  rw [hafter] at h
  exact of_after_blank hP hback h

end Cover

/-- Something holds of the cover of every sign in a text. -/
def EachSign (P : Cover → Prop) (k : Cover) (cs : Text) : Prop :=
  ∀ front back, cs = front ++ CommandLine.sign :: back → P (k.after front)

/-- Every sign of a text stands in quotes or is escaped. -/
def Sheltered (cs : Text) : Prop :=
  EachSign (fun k => k.shelters = true) .bare cs

section EachSign

variable {P : Cover → Prop} {k : Cover}

theorem eachSign_nil : EachSign P k [] := by
  intro front back h
  simp at h

theorem eachSign_cons_iff {c : CodePoint} {cs : Text} :
    EachSign P k (c :: cs) ↔ (c = CommandLine.sign → P k) ∧ EachSign P (k.next c) cs := by
  constructor
  · intro h
    refine ⟨fun hc => h [] cs (by rw [hc]; rfl), fun front back hcs => ?_⟩
    exact h (c :: front) back (by rw [hcs]; rfl)
  · rintro ⟨hc, hcs⟩ front back h
    cases front with
    | nil => exact hc (List.cons.inj h).1
    | cons d front =>
      obtain ⟨rfl, hrest⟩ := List.cons.inj h
      exact hcs front back hrest

theorem eachSign_append {xs ys : Text} (hxs : EachSign P k xs)
    (hys : EachSign P (k.after xs) ys) : EachSign P k (xs ++ ys) := by
  induction xs generalizing k with
  | nil => exact hys
  | cons c xs ih =>
    obtain ⟨hc, hxs⟩ := eachSign_cons_iff.mp hxs
    exact eachSign_cons_iff.mpr ⟨hc, ih hxs hys⟩

instance decidableEachSign [DecidablePred P] (k : Cover) :
    (cs : Text) → Decidable (EachSign P k cs)
  | [] => isTrue eachSign_nil
  | c :: cs =>
    have := decidableEachSign (k.next c) cs
    decidable_of_iff _ eachSign_cons_iff.symm

theorem EachSign.imp {Q : Cover → Prop} {cs : Text} (h : EachSign P k cs)
    (hPQ : ∀ k, P k → Q k) : EachSign Q k cs :=
  fun front back hcs => hPQ _ (h front back hcs)

instance (cs : Text) : Decidable (Sheltered cs) :=
  inferInstanceAs (Decidable (EachSign _ _ _))

end EachSign

end Token

namespace CommandLine

open Token

theorem after_quoteChar (c : CodePoint) : (Cover.quoted single).after (quoteChar c) = .quoted single := by
  by_cases hc : c = single
  · subst hc
    rfl
  · rw [quoteChar_of_ne hc]
    simp [Cover.next, hc]

theorem after_flatMap_quoteChar (w : Text) :
    (Cover.quoted single).after (w.flatMap quoteChar) = .quoted single := by
  induction w with
  | nil => rfl
  | cons c w ih => rw [List.flatMap_cons, Cover.after_append, after_quoteChar, ih]

theorem after_quote (w : Text) : Cover.bare.after (quote w) = .bare := by
  have henter : Cover.bare.next single = .quoted single := rfl
  rw [quote, List.cons_append, Cover.after_cons, henter, Cover.after_append,
    after_flatMap_quoteChar]
  rfl

theorem eachSign_quoteChar (c : CodePoint) :
    EachSign (· = .quoted single) (.quoted single) (quoteChar c) := by
  by_cases hc : c = single
  · subst hc
    decide
  · rw [quoteChar_of_ne hc]
    exact eachSign_cons_iff.mpr ⟨fun _ => rfl, eachSign_nil⟩

theorem eachSign_flatMap_quoteChar (w : Text) :
    EachSign (· = .quoted single) (.quoted single) (w.flatMap quoteChar) := by
  induction w with
  | nil => exact eachSign_nil
  | cons c w ih =>
    rw [List.flatMap_cons]
    refine eachSign_append (eachSign_quoteChar c) ?_
    rw [after_quoteChar]
    exact ih

theorem eachSign_quote (w : Text) : EachSign (· = .quoted single) .bare (quote w) := by
  have henter : Cover.bare.next single = .quoted single := rfl
  refine eachSign_cons_iff.mpr ⟨by decide, ?_⟩
  rw [henter]
  refine eachSign_append (eachSign_flatMap_quoteChar w) ?_
  rw [after_flatMap_quoteChar]
  decide

theorem eachSign_quoteAll (ws : List Text) :
    EachSign (· = .quoted single) .bare (quoteAll ws) := by
  induction ws with
  | nil => exact eachSign_nil
  | cons w ws ih =>
    cases ws with
    | nil =>
      rw [quoteAll_singleton]
      exact eachSign_quote w
    | cons w' ws =>
      rw [quoteAll_cons_cons]
      refine eachSign_append (eachSign_quote w) ?_
      rw [after_quote]
      exact eachSign_cons_iff.mpr ⟨by decide, ih⟩

theorem command_of_redirects {P : Cover → Prop}
    (hP : ∀ k c, Text.isBlank c = true → P (k.next c) → P k) {cs : Text}
    (hcs : EachSign P .bare cs) {m : Nat} (hm : Redirects (dropNewline cs) m) :
    P (Cover.bare.after (Text.strip ((dropNewline cs).take m))) := by
  obtain ⟨rest, hrest⟩ := dropNewline_isPrefix cs
  have hsplit : cs = (dropNewline cs).take m ++ sign :: ((dropNewline cs).drop (m + 1) ++ rest) := by
    calc cs = dropNewline cs ++ rest := hrest.symm
      _ = ((dropNewline cs).take m ++ sign :: (dropNewline cs).drop (m + 1)) ++ rest := by
          rw [← eq_take_append_drop hm.sign]
      _ = _ := by rw [List.append_assoc, List.cons_append]
  exact Cover.of_strip hP (hcs _ _ hsplit)

end CommandLine

end MemoryShell
