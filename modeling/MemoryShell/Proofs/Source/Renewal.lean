import MemoryShell.Proofs.Text.NormalForm
import MemoryShell.Source.Reading

set_option autoImplicit false

namespace MemoryShell.Source

/-- A token as it is written anew, with so many lines less in front of it. -/
def Token.renew (skipped : Nat) (t : Token) : Token :=
  { t.settled with line := t.line - skipped }

/-- A token lasts if its normal form is no reserved word, and is no word that is reserved in its place only,
unless it is written as that word. -/
def Token.Lasts (t : Token) : Prop :=
  t.settled.kind = t.kind ∧ ∀ word ∈ softWords, t.settled.text = word → t.text = word

/-- Only names have a normal form. -/
theorem Token.settled_of_ne {t : Token} (h : t.kind ≠ .name) : t.settled = t := by
  rw [settled]
  split
  · contradiction
  · rfl

theorem Token.settled_settled (t : Token) : t.settled.settled = t.settled := by
  by_cases hname : t.kind = .name
  · obtain ⟨kind, text, line, depth⟩ := t
    obtain rfl : kind = .name := hname
    by_cases hword : TokenKind.ofWord (Text.normalForm text) = .name
    · simp only [settled, hword, Text.normalForm_normalForm]
    · exact settled_of_ne hword
  · rw [settled_of_ne hname, settled_of_ne hname]

theorem Token.settled_line (t : Token) : t.settled.line = t.line := by
  rw [settled]
  split <;> rfl

theorem Token.settled_atLine : (t : Token) → (line : Nat) →
    Token.settled { t with line := line } = { t.settled with line := line }
  | ⟨kind, _, _, _⟩, _ => by cases kind <;> rfl

theorem Token.settled_renew (t : Token) (k : Nat) :
    (t.renew k).settled = t.renew k := by
  rw [renew, settled_atLine, settled_settled]

theorem normalForm_softWord {word : String} (h : word ∈ softWords) : Text.normalForm word = word := by
  have hascii : ∀ word ∈ softWords, (word.toList.all fun c => c.toNat < 0x80) = true := by
    decide +kernel
  rw [Text.normalForm, if_pos (hascii word h)]

/-- A word that is reserved in its place only is its own normal form. -/
theorem Token.settled_of_softWord {t : Token} (h : t.text ∈ softWords) : t.settled = t := by
  have hfree : ∀ word ∈ softWords, TokenKind.ofWord word = .name := by decide +kernel
  by_cases hname : t.kind = .name
  · obtain ⟨kind, text, line, depth⟩ := t
    obtain rfl : kind = .name := hname
    simp only [settled, normalForm_softWord h, hfree _ h]
  · exact settled_of_ne hname

namespace Token.Lasts

variable {t : Token} {k : Nat}

theorem kind_renew (h : t.Lasts) : (t.renew k).kind = t.kind :=
  h.1

theorem text_renew_of_ne (h : t.kind ≠ .name) : (t.renew k).text = t.text := by
  rw [renew, settled_of_ne h]

theorem text_renew_eq_iff (h : t.Lasts) {word : String} (hword : word ∈ softWords) :
    (t.renew k).text = word ↔ t.text = word := by
  refine ⟨h.2 word hword, ?_⟩
  rintro rfl
  rw [renew, settled_of_softWord hword]

theorem isMark_renew (h : t.Lasts) (text : String) :
    Recognizer.isMark text (t.renew k) = Recognizer.isMark text t := by
  rw [Recognizer.isMark, Recognizer.isMark, h.kind_renew]
  by_cases hmark : t.kind = .mark
  · rw [text_renew_of_ne (by rw [hmark]; decide)]
  · simp [hmark]

end Token.Lasts

section

variable {k : Nat}

@[simp] theorem Token.depth_renew : (t : Token) → (t.renew k).depth = t.depth
  | ⟨kind, _, _, _⟩ => by cases kind <;> rfl

theorem closesTwice_renew (allowsComma : Bool) {ts : List Token} (h : ∀ t ∈ ts, t.Lasts) :
    closesTwice allowsComma (ts.map (Token.renew k)) = closesTwice allowsComma ts := by
  match ts, h with
  | [], _ => rfl
  | [_], _ => rfl
  | [_, _], _ => rfl
  | [_, _, _], _ => rfl
  | _ :: a :: b :: c :: _, h =>
    have ha : a.Lasts := h a (by simp)
    have hb : b.Lasts := h b (by simp)
    have hc : c.Lasts := h c (by simp)
    simp only [List.map_cons, closesTwice, ha.isMark_renew, hb.isMark_renew, hc.isMark_renew]

theorem isWrapped_renew (allowsComma : Bool) {ts : List Token} (h : ∀ t ∈ ts, t.Lasts) :
    isWrapped allowsComma (ts.map (Token.renew k)) = isWrapped allowsComma ts := by
  match ts, h with
  | [], _ => rfl
  | [_], _ => rfl
  | t :: u :: ts, h =>
    have ht : t.Lasts := h t (by simp)
    have hu : u.Lasts := h u (by simp)
    have hdepth : (fun v : Token => decide (u.depth ≤ v.depth)) ∘ Token.renew k =
        fun v => decide (u.depth ≤ v.depth) := by
      funext v
      simp
    have hrest : ∀ v ∈ ts.dropWhile (fun v => decide (u.depth ≤ v.depth)), v.Lasts :=
      fun v hv => h v (by simp [(List.dropWhile_suffix _).mem hv])
    rw [List.map_cons, List.map_cons, isWrapped, isWrapped, ht.isMark_renew, hu.isMark_renew,
      Token.depth_renew, List.dropWhile_map, hdepth, closesTwice_renew allowsComma hrest]

theorem unwrap_sublist (item? : Option Bool) (closers : List Nat) (ts : List Token) :
    (unwrap item? closers ts).Sublist ts := by
  induction ts generalizing item? closers with
  | nil => simp [unwrap]
  | cons t ts ih =>
    rw [unwrap]
    split
    · exact (ih _ _).cons t
    · split
      · exact (ih _ _).cons t
      · split
        · exact (ih _ _).cons t
        · exact (ih _ _).cons_cons t

theorem unwrap_renew (item? : Option Bool) (closers : List Nat) {ts : List Token}
    (h : ∀ t ∈ ts, t.Lasts) :
    unwrap item? closers (ts.map (Token.renew k)) = (unwrap item? closers ts).map (Token.renew k) := by
  induction ts generalizing item? closers with
  | nil => rfl
  | cons t ts ih =>
    have ht : t.Lasts := h t List.mem_cons_self
    have hts : ∀ u ∈ ts, u.Lasts := fun u hu => h u (List.mem_cons_of_mem t hu)
    have hwrapped : (fun b => isWrapped b (t.renew k :: ts.map (Token.renew k))) =
        fun b => isWrapped b (t :: ts) := funext fun b => isWrapped_renew b h
    have hnext : (ts.map (Token.renew k)).head?.map Token.depth = ts.head?.map Token.depth := by
      cases ts <;> simp
    rw [List.map_cons, unwrap, unwrap, hwrapped, Token.depth_renew, ht.isMark_renew, ht.isMark_renew, hnext]
    simp only [ih _ _ hts, apply_ite (List.map (Token.renew k)), List.map_cons]

theorem flatten_runs : (ts : List Token) → (Field.runs ts).flatten = ts
  | [] => rfl
  | t :: ts => by
    have ih := flatten_runs ts
    rw [Field.runs]
    split
    · next u us rest hruns =>
      rw [hruns] at ih
      split <;> simpa using ih
    · simpa using ih

theorem runs_renew {ts : List Token} (h : ∀ t ∈ ts, t.Lasts) :
    Field.runs (ts.map (Token.renew k)) = (Field.runs ts).map (List.map (Token.renew k)) := by
  induction ts with
  | nil => rfl
  | cons t ts ih =>
    have hts : ∀ u ∈ ts, u.Lasts := fun u hu => h u (List.mem_cons_of_mem t hu)
    have hmem : ∀ run ∈ Field.runs ts, ∀ u ∈ run, u ∈ ts := fun run hrun u hu => by
      rw [← flatten_runs ts]
      exact List.mem_flatten_of_mem hrun hu
    rw [List.map_cons, Field.runs, Field.runs, ih hts]
    match hruns : Field.runs ts with
    | [] => rfl
    | [] :: _ => rfl
    | (u :: us) :: rest =>
      have hu : u.Lasts := hts u (hmem (u :: us) (by simp [hruns]) u (by simp))
      simp only [List.map_cons, (h t List.mem_cons_self).kind_renew, hu.kind_renew]
      split <;> rfl

theorem literalsOf_renew {run : List Token} (h : ∀ t ∈ run, t.kind = .quoted) :
    Field.literalsOf (run.map (Token.renew k)) = Field.literalsOf run := by
  rw [Field.literalsOf, Field.literalsOf, List.map_map]
  refine List.map_congr_left fun t ht => ?_
  rw [Function.comp_apply, Token.Lasts.text_renew_of_ne (by rw [h t ht]; decide)]

theorem spelledAs_renew {t : Token} (h : t.kind ≠ .name) (cs : List Char) :
    spelledAs (t.renew k) cs = (spelledAs t cs).map (Token.renew k) := by
  have hspelled (kind : TokenKind) (text : String) (hkind : kind ≠ .name) :
      Token.renew k { t with kind, text } = { t.renew k with kind, text } := by
    rw [Token.renew, Token.settled_of_ne hkind, Token.renew, Token.settled_of_ne h]
  unfold spelledAs
  cases literalsIn? cs with
  | none => exact congrArg (fun u => [u]) (hspelled .mark (String.ofList cs) (by decide)).symm
  | some texts =>
    rw [List.map_map]
    refine List.map_congr_left fun text _ => ?_
    rw [Function.comp_apply, hspelled t.kind text h, Token.renew, Token.settled_of_ne h]

theorem respellRun_renew {run : List Token} (h : ∀ t ∈ run, t.Lasts) :
    respellRun (run.map (Token.renew k)) = (respellRun run).map (Token.renew k) := by
  cases run with
  | nil => rfl
  | cons t ts =>
    have hkinds : ((t :: ts).map (Token.renew k)).all (fun u => decide (u.kind = .quoted)) =
        (t :: ts).all fun u => decide (u.kind = .quoted) := by
      rw [List.all_map, Bool.eq_iff_iff]
      simp only [List.all_eq_true, Function.comp_apply]
      exact forall₂_congr fun u hu => by rw [(h u hu).kind_renew]
    cases hquoted : (t :: ts).all fun u => decide (u.kind = .quoted) with
    | false =>
      rw [hquoted] at hkinds
      rw [respellRun, hquoted, Bool.false_and, List.map_cons, respellRun, ← List.map_cons, hkinds]
      rfl
    | true =>
      have hall : ∀ u ∈ t :: ts, u.kind = .quoted := fun u hu =>
        of_decide_eq_true (List.all_eq_true.mp hquoted u hu)
      rw [hquoted] at hkinds
      rw [respellRun, hquoted, List.map_cons, respellRun, ← List.map_cons, hkinds, literalsOf_renew hall]
      split
      · cases Field.write? (Field.literalsOf (t :: ts)) with
        | none => rfl
        | some cs => exact spelledAs_renew (by rw [hall t List.mem_cons_self]; decide) cs
      · rfl

/-- Spelling otherwise and writing anew come to the same in either order. -/
theorem respell_renew {ts : List Token} (h : ∀ t ∈ ts, t.Lasts) :
    respell (ts.map (Token.renew k)) = (respell ts).map (Token.renew k) := by
  have hkept : ∀ t ∈ unwrap none [] ts, t.Lasts := fun t ht =>
    h t ((unwrap_sublist none [] ts).subset ht)
  have hruns : ∀ run ∈ Field.runs (unwrap none [] ts), ∀ t ∈ run, t.Lasts := fun run hrun t ht =>
    hkept t (flatten_runs (unwrap none [] ts) ▸ List.mem_flatten_of_mem hrun ht)
  rw [respell, respell, unwrap_renew none [] h, runs_renew hkept, List.flatMap_map, List.map_flatMap]
  exact List.flatMap_congr fun run hrun => respellRun_renew (hruns run hrun)

end

namespace Grammar

mutual

/-- What has been recognised, of tokens written anew. No name is recognised as a token but in normal form. -/
def Value.renew (skipped : Nat) : Value → Value
  | .nothing => .nothing
  | .token t => .token { t with line := t.line - skipped }
  | .tree line t => .tree (line - skipped) t
  | .pair a b => .pair (a.renew skipped) (b.renew skipped)
  | .list vs => .list (Value.renewAll skipped vs)

def Value.renewAll (skipped : Nat) : List Value → List Value
  | [] => []
  | v :: vs => v.renew skipped :: Value.renewAll skipped vs

end

section

variable {k : Nat}

@[simp] theorem Value.renewAll_eq_map : (vs : List Value) → renewAll k vs = vs.map (renew k)
  | [] => rfl
  | v :: vs => by rw [renewAll, renewAll_eq_map vs, List.map_cons]

mutual

@[simp] theorem Value.trees_renew : (v : Value) → (v.renew k).trees = v.trees
  | .nothing => rfl
  | .token _ => rfl
  | .tree _ _ => rfl
  | .pair a b => by rw [renew, trees, trees, trees_renew a, trees_renew b]
  | .list vs => by rw [renew, trees, trees, treesAll_renewAll vs]

theorem Value.treesAll_renewAll : (vs : List Value) → treesAll (renewAll k vs) = treesAll vs
  | [] => rfl
  | v :: vs => by rw [renewAll, treesAll, treesAll, trees_renew v, treesAll_renewAll vs]

end

@[simp] theorem Value.treesAll_map_renew (vs : List Value) :
    treesAll (vs.map (renew k)) = treesAll vs := by
  rw [← renewAll_eq_map, treesAll_renewAll]

@[simp] theorem Value.id_renew : (v : Value) → (v.renew k).id = v.id
  | .nothing => rfl
  | .token _ => rfl
  | .tree _ (.node _ form _) => by cases form <;> rfl
  | .pair _ _ => rfl
  | .list _ => rfl

@[simp] theorem Value.items_renew (v : Value) : (v.renew k).items = v.items.map (renew k) := by
  cases v <;> simp [renew, items]

@[simp] theorem Value.flatMap_items_renew (vs : List Value) :
    (vs.map (renew k)).flatMap items = (vs.flatMap items).map (renew k) := by
  simp [List.flatMap_map, List.map_flatMap]

@[simp] theorem Value.line?_renew : (v : Value) → (v.renew k).line? = v.line?.map (· - k)
  | .nothing => rfl
  | .token _ => rfl
  | .tree _ _ => rfl
  | .pair a _ => by cases a <;> rfl
  | .list [] => rfl
  | .list (v :: _) => by cases v <;> rfl

end

/-- What is made of a branch of tokens written anew. A fault may be any fault. -/
def Made.Follows (k : Nat) : Made → Made → Prop
  | .value v, m => m = .value (v.renew k)
  | .fault _ _, _ => True
  | m, m' => m' = m

/-- What is made of values written anew is made anew of the values. -/
def Respects (make : List Value → Made) : Prop :=
  ∀ k vs, (make vs).Follows k (make (vs.map (Value.renew k)))

section

variable {k : Nat}

theorem respects_value {f : List Value → Value}
    (h : ∀ k vs, f (vs.map (Value.renew k)) = (f vs).renew k) : Respects fun vs => .value (f vs) :=
  fun k vs => congrArg Made.value (h k vs)

theorem respects_tree {f : List Value → Tree} (h : ∀ k vs, f (vs.map (Value.renew k)) = f vs) :
    Respects fun vs => .tree (f vs) :=
  fun k vs => congrArg Made.tree (h k vs)

@[simp] theorem respects_fault {m : List Value → Malformation} {line? : List Value → Option Nat} :
    Respects fun vs => .fault (m vs) (line? vs) :=
  fun _ _ => trivial

end

end Grammar

end MemoryShell.Source
