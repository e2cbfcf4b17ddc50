import MemoryShell.CommandLine.Token

/-!
Quoting. A word in single quotes, with each single quote inside put in double quotes of its own, is read
as one word, whatever its characters are. So a line of quoted words is cut into the words it was made of.
-/

set_option autoImplicit false

namespace MemoryShell

namespace CommandLine

open Token

/-- A character in single quotes; a single quote ends the quotation, stands in double quotes, and starts
a new one. -/
def quoteChar (c : CodePoint) : Text :=
  if c = single then [single, double, single, double, single] else [c]

def quote (w : Text) : Text :=
  single :: w.flatMap quoteChar ++ [single]

def quoteAll (ws : List Text) : Text :=
  [space].intercalate (ws.map quote)

theorem quoteChar_of_ne {c : CodePoint} (h : c ≠ single) : quoteChar c = [c] :=
  if_neg h

@[simp]
theorem quoteAll_singleton (w : Text) : quoteAll [w] = quote w := by
  simp [quoteAll, List.intercalate]

@[simp]
theorem quoteAll_cons_cons (w w' : Text) (ws : List Text) :
    quoteAll (w :: w' :: ws) = quote w ++ space :: quoteAll (w' :: ws) := by
  simp [quoteAll, List.intercalate]

end CommandLine

namespace Token

theorem scan_cons (m : Mode) (c : CodePoint) (cs : Text) :
    scan m (c :: cs) = (scan (step m c).2 cs).map fun ws => (step m c).1 ++ ws := by
  cases m <;> rfl

theorem scan_word_nil (read : Text) : scan (.word read) [] = .ok [read.reverse] :=
  rfl

theorem scan_cons_of_step {m m' : Mode} {c : CodePoint} (h : step m c = ([], m')) (cs : Text) :
    scan m (c :: cs) = scan m' cs := by
  rw [scan_cons, h]
  cases scan m' cs <;> rfl

theorem scan_quoteChar (read : Text) (c : CodePoint) (cs : Text) :
    scan (.quoted single read) (CommandLine.quoteChar c ++ cs) = scan (.quoted single (c :: read)) cs := by
  by_cases hc : c = single
  · subst hc
    -- The quotation is left for the double quotes, which hold the character, and entered again.
    have hleave : step (.quoted single read) single = ([], .word read) := rfl
    have hdouble : step (.word read) double = ([], .quoted double read) := rfl
    have hread : step (.quoted double read) single = ([], .quoted double (single :: read)) := rfl
    have hsingle : step (.quoted double (single :: read)) double = ([], .word (single :: read)) := rfl
    have henter : step (.word (single :: read)) single = ([], .quoted single (single :: read)) := rfl
    show scan (.quoted single read) (single :: double :: single :: double :: single :: cs) = _
    rw [scan_cons_of_step hleave, scan_cons_of_step hdouble, scan_cons_of_step hread,
      scan_cons_of_step hsingle, scan_cons_of_step henter]
  · have hstep : step (.quoted single read) c = ([], .quoted single (c :: read)) := by
      simp [step, hc]
    rw [CommandLine.quoteChar_of_ne hc, List.singleton_append, scan_cons_of_step hstep]

theorem scan_flatMap_quoteChar (read w cs : Text) :
    scan (.quoted single read) (w.flatMap CommandLine.quoteChar ++ single :: cs) =
      scan (.word (w.reverse ++ read)) cs := by
  induction w generalizing read with
  | nil => exact scan_cons_of_step rfl cs
  | cons c w ih =>
    rw [List.flatMap_cons, List.append_assoc, scan_quoteChar, ih, List.reverse_cons,
      List.append_assoc, List.singleton_append]

theorem scan_quote (w cs : Text) :
    scan .between (CommandLine.quote w ++ cs) = scan (.word w.reverse) cs := by
  have henter : step .between single = ([], .quoted single []) := rfl
  rw [CommandLine.quote, List.cons_append, List.cons_append, scan_cons_of_step henter,
    List.append_assoc, List.singleton_append, scan_flatMap_quoteChar, List.append_nil]

theorem words_quoteAll (w : Text) (ws : List Text) :
    words (CommandLine.quoteAll (w :: ws)) = .ok (w :: ws) := by
  induction ws generalizing w with
  | nil =>
    have hlast : scan .between (CommandLine.quote w) = scan (.word w.reverse) [] := by
      rw [← scan_quote, List.append_nil]
    rw [CommandLine.quoteAll_singleton, words, hlast, scan_word_nil, List.reverse_reverse]
  | cons w' ws ih =>
    have hspace : step (.word w.reverse) space = ([w], .between) := by
      simp [step, isQuote, isSeparator, start]
    rw [CommandLine.quoteAll_cons_cons, words, scan_quote, scan_cons, hspace]
    have hrest : scan .between (CommandLine.quoteAll (w' :: ws)) = .ok (w' :: ws) := ih w'
    rw [hrest]
    rfl

end Token

namespace CommandLine

/-- A line of quoted words, whatever their characters are, is cut into its words. The first gives the
name, unless it is empty or made of operator characters; the others that are not empty are the
arguments, in their order. -/
theorem tokens_quotedLine (w : Text) (ws : List Text) :
    Tokens.ofText (quoteAll (w :: ws)) =
      .ok ⟨if w = [] ∨ w.all Token.isOperator then [] else w, ws.filter (· ≠ [])⟩ := by
  have hname : Tokens.nameOf w = if w = [] ∨ w.all Token.isOperator then [] else w := by
    unfold Tokens.nameOf
    by_cases hempty : w = []
    · simp [hempty]
    · simp [hempty]
  rw [Tokens.ofText, Token.words_quoteAll, ← hname]
  rfl

/-- Quotes, operators and blanks inside words stay, and only empty arguments are lost. -/
example : Tokens.ofText (quoteAll ["a'b", ";", "", " # "]) = .ok ⟨"a'b", [";", " # "]⟩ :=
  rfl

end CommandLine

end MemoryShell
