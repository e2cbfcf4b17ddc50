import MemoryShell.Proofs.CommandLine.Cover
import MemoryShell.Proofs.CommandLine.Exposure
import MemoryShell.Proofs.Shell.Dispatch
import MemoryShell.Proofs.Shell.Emission

/-!
What becomes of quoted signs. Redirections are looked for in the line as it stands, so a quoted sign may
be taken for one; but then the command in front of it ends inside the quotation, and the line is refused.
A quoted sign never makes a line write.
-/

set_option autoImplicit false

namespace MemoryShell

namespace CommandLine

open Token

theorem mem_of_redirects {cs : Text} {m : Nat} (h : Redirects (dropNewline cs) m) : sign ∈ cs :=
  (dropNewline_isPrefix cs).subset (List.mem_of_getElem? h.sign)

theorem ofText_eq_error {cs : Text} {e : Token.Error}
    (h : (Cover.bare.after cs).fault? = some e) : Tokens.ofText cs = .error e := by
  have hwords : words cs = .error e := (scan_eq_error_iff .between cs e).mpr h
  rw [Tokens.ofText, hwords]
  rfl

theorem parse_of_sheltered {text : Text} (h : Sheltered text) :
    parse text = ⟨Text.strip text, none⟩ ∨
      sign ∈ text ∧ ∃ e, Tokens.ofText (parse text).command = .error e := by
  rcases parse_cases text with ⟨m, hm, -, hparse⟩ | ⟨-, hparse⟩
  · have hshelters := command_of_redirects Cover.shelters_of_next_blank h hm
    rw [← Cover.isSome_fault?, Option.isSome_iff_exists] at hshelters
    obtain ⟨e, he⟩ := hshelters
    refine .inr ⟨mem_of_redirects hm, e, ?_⟩
    rw [hparse]
    exact ofText_eq_error he
  · exact .inl hparse

variable (w : Text) (ws : List Text)

theorem sheltered_quoteAll : Sheltered (quoteAll (w :: ws)) := by
  refine (eachSign_quoteAll _).imp ?_
  rintro k rfl
  rfl

theorem parse_quoteAll_cases :
    (¬ Exposed ((w :: ws).getLast (List.cons_ne_nil w ws)) ∧
        parse (quoteAll (w :: ws)) = ⟨quoteAll (w :: ws), none⟩) ∨
      (Exposed ((w :: ws).getLast (List.cons_ne_nil w ws)) ∧
        (parse (quoteAll (w :: ws))).redirection ≠ none ∧
        Tokens.ofText (parse (quoteAll (w :: ws))).command = .error .openQuotation) := by
  have hend := getLast?_quoteAll w ws
  have hdrop : dropNewline (quoteAll (w :: ws)) = quoteAll (w :: ws) := by
    rw [dropNewline, hend]
    exact if_neg (by decide)
  have hexposed : (∃ m, Redirects (dropNewline (quoteAll (w :: ws))) m) ↔
      Exposed ((w :: ws).getLast (List.cons_ne_nil w ws)) := by
    rw [hdrop, ← exposed_quoteAll_iff]
    exact exists_redirects_iff isBlank_quote (by decide) hend
  rcases parse_cases (quoteAll (w :: ws)) with ⟨m, hm, -, hparse⟩ | ⟨hnone, hparse⟩
  · refine .inr ⟨hexposed.mp ⟨m, hm⟩, by rw [hparse]; simp, ?_⟩
    have hcover := command_of_redirects Cover.quoted_of_next_blank (eachSign_quoteAll _) hm
    rw [hparse]
    exact ofText_eq_error (by rw [hcover]; rfl)
  · refine .inl ⟨fun h => ?_, ?_⟩
    · obtain ⟨m, hm⟩ := hexposed.mpr h
      exact hnone m hm
    · rw [hparse, Text.strip_eq_self isBlank_quote isBlank_quote (head?_quoteAll _ _) hend]

theorem nameOf_of_exists {w : Text} (h : ∃ c ∈ w, Token.isOperator c = false) :
    (if w = [] ∨ w.all Token.isOperator then [] else w) = w := by
  obtain ⟨c, hc, hplain⟩ := h
  have hall : w.all Token.isOperator = false := List.all_eq_false.mpr ⟨c, hc, by simp [hplain]⟩
  simp [List.ne_nil_of_mem hc, hall]

theorem isBlankLine_of_mem {text : Text} {c : CodePoint} (hc : c ∈ text)
    (h : Text.isBlank c = false) : isBlankLine text = false := by
  rw [isBlankLine, List.all_eq_false]
  exact ⟨c, hc, by simp [h]⟩

end CommandLine

namespace Shell

open CommandLine

variable {s : Shell} {text : Text}

/-- A line is complained about, and that is all. -/
structure Refuses (execute : Json → ShellM Json) (text message : Text) (s : Shell) : Prop where
  complains : outcome (executeWith execute (.string text)) s = outcome (complain message) s
  keeps : (outcome (executeWith execute (.string text)) s).2.volume = s.volume

theorem refuses_of_error (execute : Json → ShellM Json) {e : Token.Error} {c : CodePoint}
    (hc : c ∈ text) (hblank : Text.isBlank c = false)
    (htokens : Tokens.ofText (parse text).command = .error e) :
    Refuses execute text e.message s := by
  have herrand : errand s.registry (.string text) = .error ↑e.message := by
    simp [errand, Json.text?, isBlankLine_of_mem hc hblank, htokens]
  have hrun : outcome (executeWith execute (.string text)) s = outcome (complain e.message) s := by
    rw [outcome_executeWith, herrand]
  obtain ⟨ls, steps, hsaid⟩ := outcome_emit .stderr (.string (Message.prefixed e.message)) s
  refine ⟨hrun, ?_⟩
  rw [hrun, complain, hsaid]

/-- Quoting does not hide a sign from redirection, for a redirection is looked for in the line as it
stands. It is found in a line of quoted words just in case that the last word has a sign, and behind its
last sign no blank but at once. Then the line is refused. Otherwise the line is all command, and the
words of it, without the empty ones, are handed to the command that the first one names. In any line
where each sign is quoted or escaped, a sign that is taken for a redirection only makes the line be
refused, so that nothing is written. -/
theorem sheltered_signs_only_refuse (execute : Json → ShellM Json) (s : Shell) :
    (∀ (w : Text) (ws : List Text),
      ((parse (quoteAll (w :: ws))).redirection = none ↔
        ¬ Exposed ((w :: ws).getLast (List.cons_ne_nil w ws))) ∧
      (¬ Exposed ((w :: ws).getLast (List.cons_ne_nil w ws)) →
        parse (quoteAll (w :: ws)) = ⟨quoteAll (w :: ws), none⟩ ∧
        ∀ command, (∃ c ∈ w, Token.isOperator c = false) →
          s.registry.called? w = some command →
            outcome (executeWith execute (.string (quoteAll (w :: ws)))) s =
              outcome (dispatch execute ⟨w, ws.filter (· ≠ [])⟩ none command) s) ∧
      (Exposed ((w :: ws).getLast (List.cons_ne_nil w ws)) →
        Refuses execute (quoteAll (w :: ws)) "No closing quotation" s)) ∧
    ∀ text : Text, Token.Sheltered text →
      parse text = ⟨Text.strip text, none⟩ ∨
        ∃ e, Tokens.ofText (parse text).command = .error e ∧ Refuses execute text e.message s := by
  refine ⟨fun w ws => ?_, fun text htext => ?_⟩
  · have hquote : Token.single ∈ quoteAll (w :: ws) := List.mem_of_mem_head? (head?_quoteAll _ _)
    rcases parse_quoteAll_cases w ws with ⟨hhidden, hparse⟩ | ⟨hexposed, hfound, htokens⟩
    · refine ⟨iff_of_true (by rw [hparse]) hhidden, fun _ => ⟨hparse, fun command hw hcommand => ?_⟩,
        fun hexposed => absurd hexposed hhidden⟩
      have htokens : Tokens.ofText (quoteAll (w :: ws)) = .ok ⟨w, ws.filter (· ≠ [])⟩ := by
        rw [tokens_quotedLine, nameOf_of_exists hw]
      have hresolves : Resolves s (.string (quoteAll (w :: ws))) ⟨w, ws.filter (· ≠ [])⟩ none
          command := by
        refine ⟨⟨_, rfl, isBlankLine_of_mem hquote isBlank_quote, ?_, ?_⟩, ?_, hcommand⟩
        · rw [hparse, htokens]
        · rw [hparse]
        · rintro rfl
          obtain ⟨c, hc, -⟩ := hw
          cases hc
      exact hresolves.outcome_eq execute
    · exact ⟨iff_of_false hfound (not_not_intro hexposed), fun hhidden => absurd hexposed hhidden,
        fun _ => refuses_of_error execute hquote isBlank_quote htokens⟩
  · rcases parse_of_sheltered htext with hparse | ⟨hsign, e, htokens⟩
    · exact .inl hparse
    · exact .inr ⟨e, htokens, refuses_of_error execute hsign isBlank_sign htokens⟩

/-- A quoted sign is taken for a redirection, although the line is cut into its words and the sign is
sheltered. -/
theorem quoted_sign_taken_for_redirection :
    parse (quoteAll ["echo", "a>b"]) = ⟨"'echo' 'a", some ⟨.write, "b'"⟩⟩ ∧
      Tokens.ofText (quoteAll ["echo", "a>b"]) = .ok ⟨"echo", ["a>b"]⟩ ∧
      Token.Sheltered (quoteAll ["echo", "a>b"]) := by
  exact ⟨by decide +kernel, rfl, sheltered_quoteAll _ _⟩

/-- With a blank inside what is behind its sign, a word reaches a command; without, it does not. -/
theorem sheltered_signs_only_refuse_echo :
    ∃ first, build 0 .usual builtins = .ok first ∧
      outcome (executeWith (executeWithin 0) (.string (quoteAll ["echo", "a>b c"]))) first =
        outcome (dispatch (executeWithin 0) ⟨"echo", ["a>b c"]⟩ none (.builtin .echo)) first ∧
      Refuses (executeWithin 0) (quoteAll ["echo", "a > b"]) "No closing quotation" first ∧
      Token.Sheltered "echo a\\>b" ∧
      ∃ e, Tokens.ofText (parse "echo a\\>b").command = .error e ∧
        Refuses (executeWithin 0) "echo a\\>b" e.message first := by
  obtain ⟨first, hfirst⟩ : ∃ first, build 0 .usual builtins = .ok first := ⟨_, rfl⟩
  obtain ⟨hwords, hlines⟩ := sheltered_signs_only_refuse (executeWithin 0) first
  obtain ⟨-, hpassed, -⟩ := hwords "echo" ["a>b c"]
  obtain ⟨-, -, hrefused⟩ := hwords "echo" ["a > b"]
  have hknown : first.registry.called? "echo" = some (.builtin .echo) := by
    obtain rfl := Except.ok.inj hfirst
    rfl
  have hsheltered : Token.Sheltered "echo a\\>b" := by decide +kernel
  refine ⟨first, hfirst, ?_, hrefused (by decide +kernel), hsheltered, ?_⟩
  · exact (hpassed (by decide +kernel)).2 (.builtin .echo) ⟨'e', by decide, rfl⟩ hknown
  · rcases hlines "echo a\\>b" hsheltered with hparse | hrefuses
    · exact absurd hparse (by decide +kernel)
    · exact hrefuses

end Shell

end MemoryShell
