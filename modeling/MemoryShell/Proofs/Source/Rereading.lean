import MemoryShell.Proofs.Source.Respect

set_option autoImplicit false

namespace MemoryShell.Source.Recognizer

open Grammar

theorem isMark_iff {text : String} {t : Token} :
    isMark text t = true ↔ t.kind = .mark ∧ t.text = text := by
  simp [isMark]

/-- Tokens that are others written anew, all of which last. -/
structure Renews (k : Nat) (ts us : Tokens) : Prop where
  tokens : us.tokens = ts.tokens.map (Token.renew k)
  stop : us.stop? = none
  lasts : ∀ t ∈ ts.tokens, t.Lasts
  skipped : ts.tokens = #[] → k = 0

/-- Where reading what is written anew is when faults are not looked for: at the same place, and what is
remembered is remembered anew. -/
structure State.Follows (k : Nat) (s s' : State) : Prop where
  place : s'.place = s.place
  idle : s.isSearching = false
  idle' : s'.isSearching = false
  memory : ∀ r p, s'.remembered? r p =
    (s.remembered? r p).map (Option.map (Prod.map (Value.renew k) id))

/-- What comes of reading what is written anew. Where a fault has been come upon, nothing is said. -/
inductive Outcome.Follows (k : Nat) : Outcome → Outcome → Prop
  | found {v : Value} {s s' : State} (hs : s.Follows k s') :
      Outcome.Follows k (.found v s) (.found (v.renew k) s')
  | missed {s s' : State} (hs : s.Follows k s') : Outcome.Follows k (.missed s) (.missed s')
  | failed {f : Fault} {o : Outcome} : Outcome.Follows k (.failed f) o

inductive Sequenced.Follows (k : Nat) : Sequenced → Sequenced → Prop
  | found {vs : List Value} {s s' : State} (hs : s.Follows k s') :
      Sequenced.Follows k (.found vs s) (.found (vs.map (Value.renew k)) s')
  | missed {isCut : Bool} {s s' : State} (hs : s.Follows k s') :
      Sequenced.Follows k (.missed isCut s) (.missed isCut s')
  | failed {f : Fault} {o : Sequenced} : Sequenced.Follows k (.failed f) o

namespace State

variable {k : Nat} {s s' : State}

theorem remembered?_remember (s : State) (r q : Rule) (p p' : Nat) (w : Option (Value × Nat)) :
    (s.remember r p w).remembered? q p' =
      if p = p' ∧ q = r then some w else s.remembered? q p' := by
  unfold remember remembered?
  rw [Std.TreeMap.getD_insert]
  by_cases hp : p = p'
  · subst hp
    by_cases hr : q = r
    · simp [hr]
    · simp [hr, List.lookup_cons, beq_false_of_ne hr]
  · simp [hp]

namespace Follows

variable (h : s.Follows k s')

include h

theorem moveTo (p : Nat) : (s.moveTo p).Follows k (s'.moveTo p) :=
  ⟨rfl, h.idle, h.idle', h.memory⟩

theorem look (f f' : Nat) : State.Follows k { s with furthest := f } { s' with furthest := f' } :=
  ⟨h.place, h.idle, h.idle', h.memory⟩

theorem advance : State.Follows k { s with place := s.place + 1 } { s' with place := s'.place + 1 } :=
  ⟨congrArg (· + 1) h.place, h.idle, h.idle', h.memory⟩

theorem searching : (s.searching false).Follows k (s'.searching false) :=
  ⟨h.place, rfl, rfl, h.memory⟩

theorem remember (r : Rule) (p : Nat) (w : Option (Value × Nat)) :
    (s.remember r p w).Follows k
      (s'.remember r p (w.map (Prod.map (Value.renew k) id))) where
  place := h.place
  idle := h.idle
  idle' := h.idle'
  memory q p' := by
    rw [remembered?_remember, remembered?_remember, h.memory]
    split <;> rfl

end Follows

end State

namespace Renews

variable {k : Nat} {ts us : Tokens} (h : Renews k ts us)

include h

theorem getElem? (p : Nat) : us.tokens[p]? = ts.tokens[p]?.map (Token.renew k) := by
  rw [h.tokens, Array.getElem?_map]

theorem lineAt (p : Nat) : lineAt us p = Recognizer.lineAt ts p - k := by
  have hback : us.tokens.back? = ts.tokens.back?.map (Token.renew k) := by
    rw [h.tokens, Array.back?_map]
  rw [Recognizer.lineAt, Recognizer.lineAt, h.getElem?, hback]
  cases hlast : ts.tokens.back? with
  | none =>
    obtain rfl := h.skipped (Array.back?_eq_none_iff.mp hlast)
    cases ts.tokens[p]? <;> rfl
  | some t => cases ts.tokens[p]? <;> rfl

theorem look {s s' : State} {d d' : Token → State → Outcome} (hs : s.Follows k s')
    (hd : ∀ t ∈ ts.tokens, ∀ s s', s.Follows k s' → (d t s).Follows k (d' (t.renew k) s')) :
    (look ts s d).Follows k (look us s' d') := by
  have hplace : us.tokens[s'.place]? = ts.tokens[s.place]?.map (Token.renew k) := by
    rw [h.getElem?, hs.place]
  rw [Recognizer.look, Recognizer.look, hplace]
  cases ht : ts.tokens[s.place]? with
  | some t => exact hd t (Array.mem_of_getElem? ht) _ _ (hs.look _ _)
  | none =>
    rw [Option.map_none]
    simp only [failAtEnd, h.stop]
    cases ts.stop? with
    | none => exact Outcome.Follows.missed hs
    | some _ => exact .failed

theorem accept {s s' : State} {test : Token → Bool} {value : Token → Value} (hs : s.Follows k s')
    (htest : ∀ t ∈ ts.tokens, test (t.renew k) = test t)
    (hvalue : ∀ t ∈ ts.tokens, test t = true → value (t.renew k) = (value t).renew k) :
    (accept ts s test value).Follows k (accept us s' test value) := by
  refine h.look hs fun t ht s s' hs => ?_
  rw [htest t ht]
  by_cases hpass : test t = true
  · rw [if_pos hpass, if_pos hpass, hvalue t ht hpass]
    exact Outcome.Follows.found hs.advance
  · rw [if_neg hpass, if_neg hpass]
    exact Outcome.Follows.missed hs

end Renews

/-- Reading follows in all that it does with room for so many steps. -/
structure Follows (k : Nat) (ts us : Tokens) (n : Nat) : Prop where
  item : ∀ {i : Item} {s s' : State}, i.Respectful → s.Follows k s' →
    (Recognizer.item ts n i s).Follows k (Recognizer.item us n i s')
  repeated : ∀ {separator? : Option String} {i : Item} (vs : List Value) {s s' : State},
    i.Respectful → s.Follows k s' → (Recognizer.repeated ts n separator? i vs s).Follows k
      (Recognizer.repeated us n separator? i (vs.map (Value.renew k)) s')
  inSequence : ∀ {is : List Item} (vs : List Value) (isCut : Bool) {s s' : State},
    Item.AllRespectful is → s.Follows k s' → (Recognizer.inSequence ts n is vs isCut s).Follows k
      (Recognizer.inSequence us n is (vs.map (Value.renew k)) isCut s')
  firstOf : ∀ {bs : List Branch} (start : Nat) (left : List Value) {s s' : State},
    Branch.AllRespectful bs → s.Follows k s' → (Recognizer.firstOf ts n bs start left s).Follows k
      (Recognizer.firstOf us n bs start (left.map (Value.renew k)) s')
  goOn : ∀ {bs : List Branch} {start : Nat} {v : Value} {s s' : State},
    Branch.AllRespectful bs → s.Follows k s' → (Recognizer.goOn ts n bs start v s).Follows k
      (Recognizer.goOn us n bs start (v.renew k) s')
  rule : ∀ {r : Rule} {s s' : State}, s.Follows k s' →
    (Recognizer.rule ts n r s).Follows k (Recognizer.rule us n r s')

theorem reverse_renew {k : Nat} (vs : List Value) :
    (Value.list vs.reverse).renew k = .list (vs.map (Value.renew k)).reverse := by
  rw [Value.renew, Value.renewAll_eq_map, List.map_reverse]

theorem follows_zero (k : Nat) (ts us : Tokens) : Follows k ts us 0 where
  item _ hs := by
    rw [item, item]
    exact Outcome.Follows.missed hs
  repeated vs _ _ _ hs := by
    rw [repeated, repeated, ← reverse_renew]
    exact Outcome.Follows.found hs
  inSequence _ _ _ _ _ hs := by
    rw [inSequence, inSequence]
    exact Sequenced.Follows.missed hs
  firstOf _ _ _ _ _ hs := by
    rw [firstOf, firstOf]
    exact Outcome.Follows.missed hs
  goOn _ hs := by
    rw [goOn, goOn]
    exact Outcome.Follows.found hs
  rule hs := by
    rw [rule, rule]
    exact Outcome.Follows.missed hs

section

variable {k n : Nat} {ts us : Tokens} (hn : Follows k ts us n)

include hn

/-- Reading an item once more, after an attempt at it. -/
theorem follows_again {separator? : Option String} {i : Item} {vs : List Value} {o o' : Outcome}
    (hi : i.Respectful) (place : Nat) : o.Follows k o' → Outcome.Follows k
      (match o with
        | .found v s => repeated ts n separator? i (v :: vs) s
        | .missed s => .found (.list vs.reverse) (s.moveTo place)
        | .failed f => .failed f)
      (match o' with
        | .found v s => repeated us n separator? i (v :: vs.map (Value.renew k)) s
        | .missed s => .found (.list (vs.map (Value.renew k)).reverse) (s.moveTo place)
        | .failed f => .failed f) := by
  intro ho
  cases ho with
  | @found v s s' hs => exact hn.repeated (v :: vs) hi hs
  | missed hs =>
    rw [← reverse_renew]
    exact .found (hs.moveTo _)
  | failed => exact .failed

theorem follows_repeated (h : Renews k ts us) {separator? : Option String} {i : Item}
    (vs : List Value) {s s' : State} (hi : i.Respectful) (hs : s.Follows k s') :
    (repeated ts (n + 1) separator? i vs s).Follows k
      (repeated us (n + 1) separator? i (vs.map (Value.renew k)) s') := by
  unfold repeated
  rw [hs.place]
  refine follows_again hn hi s.place ?_
  cases separator? with
  | none => exact hn.item hi hs
  | some separator =>
    have haccept : Outcome.Follows k (accept ts s (isMark separator) fun _ => .nothing)
        (accept us s' (isMark separator) fun _ => .nothing) :=
      h.accept hs (fun t ht => (h.lasts t ht).isMark_renew separator) fun _ _ _ => rfl
    dsimp only
    generalize accept ts s (isMark separator) (fun _ => .nothing) = o at haccept ⊢
    generalize accept us s' (isMark separator) (fun _ => .nothing) = o' at haccept ⊢
    cases haccept with
    | found ht => exact hn.item hi ht
    | missed ht => exact .missed ht
    | failed => exact .failed

theorem follows_inSequence {is : List Item} (vs : List Value) (isCut : Bool) {s s' : State}
    (his : Item.AllRespectful is) (hs : s.Follows k s') :
    (inSequence ts (n + 1) is vs isCut s).Follows k
      (inSequence us (n + 1) is (vs.map (Value.renew k)) isCut s') := by
  cases is with
  | nil =>
    rw [inSequence, inSequence, ← List.map_reverse]
    exact .found hs
  | cons i is =>
    unfold inSequence
    have hitem := hn.item his.1 hs
    generalize item ts n i s = o at hitem ⊢
    generalize item us n i s' = o' at hitem ⊢
    cases hitem with
    | failed => exact .failed
    | missed ht => exact .missed ht
    | @found v _ _ ht =>
      have hvs : (if i.isSilent then vs.map (Value.renew k) else v.renew k :: vs.map (Value.renew k)) =
          (if i.isSilent then vs else v :: vs).map (Value.renew k) := by
        split <;> rfl
      dsimp only
      rw [hvs]
      exact hn.inSequence _ _ his.2 ht

theorem follows_firstOf (h : Renews k ts us) {bs : List Branch} (start : Nat) (left : List Value)
    {s s' : State} (hbs : Branch.AllRespectful bs) (hs : s.Follows k s') :
    (firstOf ts (n + 1) bs start left s).Follows k
      (firstOf us (n + 1) bs start (left.map (Value.renew k)) s') := by
  match bs, hbs with
  | [], _ =>
    rw [firstOf, firstOf]
    exact .missed hs
  | .mk is make :: bs, ⟨⟨his, hmake⟩, hbs⟩ =>
    unfold firstOf
    have hitems := hn.inSequence left false his hs
    generalize inSequence ts n is left false s = o at hitems ⊢
    generalize inSequence us n is (left.map (Value.renew k)) false s' = o' at hitems ⊢
    cases hitems with
    | failed => exact .failed
    | @missed isCut t t' ht =>
      cases isCut with
      | true => exact .missed ht
      | false =>
        rw [hs.place]
        exact hn.firstOf start left hbs (ht.moveTo _)
    | @found vs t t' ht =>
      have hmade := hmake k vs
      dsimp only
      generalize make vs = m at hmade ⊢
      generalize make (vs.map (Value.renew k)) = m' at hmade ⊢
      cases m with
      | fault m line? => exact .failed
      | value v =>
        obtain rfl := hmade
        exact .found ht
      | tree t =>
        obtain rfl := hmade
        dsimp only
        rw [h.lineAt]
        exact .found ht
      | nothing =>
        obtain rfl := hmade
        exact .missed ht
      | formatted isWritable ps =>
        obtain rfl := hmade
        dsimp only
        rw [h.lineAt]
        cases formatted n ps with
        | ok parts => exact .found ht
        | error m => exact .failed

theorem follows_goOn {bs : List Branch} {start : Nat} {v : Value} {s s' : State}
    (hbs : Branch.AllRespectful bs) (hs : s.Follows k s') :
    (goOn ts (n + 1) bs start v s).Follows k (goOn us (n + 1) bs start (v.renew k) s') := by
  unfold goOn
  have hfirst := hn.firstOf start [v] hbs hs
  rw [List.map_singleton] at hfirst
  generalize firstOf ts n bs start [v] s = o at hfirst ⊢
  generalize firstOf us n bs start [v.renew k] s' = o' at hfirst ⊢
  cases hfirst with
  | failed => exact .failed
  | missed ht =>
    rw [hs.place]
    exact .found (ht.moveTo _)
  | found ht => exact hn.goOn hbs ht

theorem follows_beginning {d : Definition} (start : Nat) {s s' : State}
    (hd : Branch.AllRespectful d.branches ∧ Branch.AllRespectful d.goingOn) (hs : s.Follows k s') :
    Outcome.Follows k
      (match firstOf ts n d.branches start [] s with
        | .found v s => if d.goingOn.isEmpty then .found v s else goOn ts n d.goingOn start v s
        | o => o)
      (match firstOf us n d.branches start [] s' with
        | .found v s => if d.goingOn.isEmpty then .found v s else goOn us n d.goingOn start v s
        | o => o) := by
  have hfirst := hn.firstOf start [] hd.1 hs
  rw [List.map_nil] at hfirst
  generalize firstOf ts n d.branches start [] s = o at hfirst ⊢
  generalize firstOf us n d.branches start [] s' = o' at hfirst ⊢
  cases hfirst with
  | failed => exact .failed
  | missed ht => exact .missed ht
  | found ht =>
    dsimp only
    split
    · exact .found ht
    · exact hn.goOn hd.2 ht

omit hn in
/-- Remembering what has come of a rule. -/
theorem follows_kept (r : Rule) (start : Nat) (isRemembered : Bool) {o o' : Outcome} :
    o.Follows k o' → Outcome.Follows k
      (match o with
        | .found v s =>
          .found v ((if isRemembered then s.remember r start (some (v, s.place)) else s).searching false)
        | .missed s =>
          .missed ((if isRemembered then s.remember r start none else s).searching false)
        | .failed f => .failed f)
      (match o' with
        | .found v s =>
          .found v ((if isRemembered then s.remember r start (some (v, s.place)) else s).searching false)
        | .missed s =>
          .missed ((if isRemembered then s.remember r start none else s).searching false)
        | .failed f => .failed f) := by
  rintro (⟨hs⟩ | ⟨hs⟩ | _)
  · dsimp only
    rw [hs.place]
    refine .found (State.Follows.searching ?_)
    split
    · exact hs.remember r start _
    · exact hs
  · refine .missed (State.Follows.searching ?_)
    split
    · exact hs.remember r start none
    · exact hs
  · exact .failed

theorem follows_rule {r : Rule} {s s' : State} (hs : s.Follows k s') :
    (rule ts (n + 1) r s).Follows k (rule us (n + 1) r s') := by
  unfold rule
  have hd := definition_respectful r
  generalize definition r = d at hd ⊢
  simp only [hs.idle, hs.idle', hs.place, Bool.not_false, Bool.and_true, Bool.false_and]
  cases hfault : d.isFault with
  | true => exact .missed hs
  | false =>
    have hmemory : (if d.isRemembered then s'.remembered? r s.place else none) =
        (if d.isRemembered then s.remembered? r s.place else none).map
          (Option.map (Prod.map (Value.renew k) id)) := by
      rw [hs.memory]
      split <;> rfl
    rw [hmemory]
    rcases (if d.isRemembered then s.remembered? r s.place else none) with _ | _ | ⟨v, place⟩
    · have hbeginning := follows_beginning hn s.place
        (hd.resolve_left (by simp [hfault])) hs.searching
      exact follows_kept r s.place d.isRemembered hbeginning
    · exact .missed hs
    · exact .found (hs.moveTo place)

theorem follows_item (h : Renews k ts us) {i : Item} {s s' : State} (hi : i.Respectful)
    (hs : s.Follows k s') : (item ts (n + 1) i s).Follows k (item us (n + 1) i s') := by
  have hkind (kind : TokenKind) : ∀ t ∈ ts.tokens,
      decide ((t.renew k).kind = kind) = decide (t.kind = kind) := fun t ht => by
    rw [(h.lasts t ht).kind_renew]
  have hmark (text : String) : ∀ t ∈ ts.tokens, isMark text (t.renew k) = isMark text t :=
    fun t ht => (h.lasts t ht).isMark_renew text
  have htoken {t : Token} (ht : t.settled = t) : Value.token (t.renew k) = (Value.token t).renew k := by
    rw [Value.renew, Token.renew, ht]
  unfold item
  cases i with
  | mark text => exact h.accept hs (hmark text) fun _ _ _ => rfl
  | seen text =>
    refine h.accept hs (hmark text) fun t _ hpass => htoken (Token.settled_of_ne ?_)
    rw [(isMark_iff.mp hpass).1]
    decide
  | forced text =>
    refine h.look hs fun t ht s s' hs => ?_
    rw [readForced, readForced, hmark text t ht]
    split
    · exact .found hs.advance
    · exact .failed
  | soft text =>
    refine h.accept hs (fun t ht => ?_) fun t _ hpass => htoken (Token.settled_of_softWord ?_)
    · rw [hkind .name t ht, decide_eq_decide.mpr ((h.lasts t ht).text_renew_eq_iff hi)]
    · rw [of_decide_eq_true (Bool.and_eq_true_iff.mp hpass).2]
      exact hi
  | softStart => exact hi.elim
  | name =>
    refine h.accept hs (hkind _) fun t ht _ => ?_
    rw [nameValue, nameValue, Value.renew, t.settled_renew]
    rfl
  | number =>
    refine h.look hs fun t ht s s' hs => ?_
    rw [readNumber, readNumber, (h.lasts t ht).kind_renew]
    split
    · next hnumber =>
      rw [Token.Lasts.text_renew_of_ne (by rw [hnumber]; decide)]
      cases Number.constantOf t.text.toList with
      | ok c => exact .found hs.advance
      | error m => exact .failed
    · exact .missed hs
  | quoted =>
    refine h.accept hs (hkind _) fun t _ hpass => htoken (Token.settled_of_ne ?_)
    rw [of_decide_eq_true hpass]
    decide
  | lineEnd => exact h.accept hs (hkind _) fun _ _ _ => rfl
  | indent => exact h.accept hs (hkind _) fun _ _ _ => rfl
  | unindent => exact h.accept hs (hkind _) fun _ _ _ => rfl
  | ending => exact h.accept hs (hkind _) fun _ _ _ => rfl
  | last => exact hi.elim
  | cut => exact .found hs
  | rule r => exact hn.rule hs
  | optional i =>
    have hitem := hn.item (i := i) hi hs
    dsimp only
    rw [hs.place]
    generalize item ts n i s = o at hitem ⊢
    generalize item us n i s' = o' at hitem ⊢
    cases hitem with
    | found ht => exact .found ht
    | missed ht => exact .found (ht.moveTo _)
    | failed => exact .failed
  | many i => exact hn.repeated (i := i) [] hi hs
  | atLeastOne i =>
    have hitem := hn.item (i := i) hi hs
    dsimp only
    generalize item ts n i s = o at hitem ⊢
    generalize item us n i s' = o' at hitem ⊢
    cases hitem with
    | @found v _ _ ht => exact hn.repeated (i := i) [v] hi ht
    | missed ht => exact .missed ht
    | failed => exact .failed
  | separated i =>
    have hitem := hn.item (i := i) hi hs
    dsimp only
    generalize item ts n i s = o at hitem ⊢
    generalize item us n i s' = o' at hitem ⊢
    cases hitem with
    | @found v _ _ ht => exact hn.repeated (i := i) [v] hi ht
    | missed ht => exact .missed ht
    | failed => exact .failed
  | oneOf bs =>
    dsimp only
    rw [hs.place]
    have hbs : Branch.AllRespectful bs := hi
    exact hn.firstOf s.place [] hbs hs
  | ahead i =>
    have hitem := hn.item (i := i) hi hs
    dsimp only
    rw [hs.place]
    generalize item ts n i s = o at hitem ⊢
    generalize item us n i s' = o' at hitem ⊢
    cases hitem with
    | found ht => exact .found (ht.moveTo _)
    | missed ht => exact .missed ht
    | failed => exact .failed
  | notAhead i =>
    have hitem := hn.item (i := i) hi hs
    dsimp only
    rw [hs.place]
    generalize item ts n i s = o at hitem ⊢
    generalize item us n i s' = o' at hitem ⊢
    cases hitem with
    | found ht => exact .missed ht
    | missed ht => exact .found (ht.moveTo _)
    | failed => exact .failed

end

/-- Reading what is written anew follows however many steps there is room for. -/
theorem follows {k : Nat} {ts us : Tokens} (h : Renews k ts us) : (n : Nat) → Follows k ts us n
  | 0 => follows_zero k ts us
  | n + 1 =>
    have hn := follows h n
    { item := follows_item hn h
      repeated := follows_repeated hn h
      inSequence := follows_inSequence hn
      firstOf := follows_firstOf hn h
      goOn := follows_goOn hn
      rule := follows_rule hn }

theorem State.follows_start (k : Nat) : State.Follows k ⟨0, 0, false, ∅⟩ ⟨0, 0, false, ∅⟩ where
  place := rfl
  idle := rfl
  idle' := rfl
  memory r p := by simp [State.remembered?]

/-- What is read of tokens is read of them again once they are written anew. -/
theorem exists_read_of_renews {k : Nat} {ts us : Tokens} (h : Renews k ts us) {v : Value} {s : State}
    (hread : read ts false 0 = .found v s) :
    ∃ w s', read us false 0 = .found w s' ∧ w.trees = v.trees := by
  have hfollows := (follows h (room ts.tokens.size)).rule (r := .file) (State.follows_start k)
  have hsize : us.tokens.size = ts.tokens.size := by rw [h.tokens, Array.size_map]
  rw [read] at hread
  rw [hread] at hfollows
  rw [read, hsize]
  generalize rule us (room ts.tokens.size) .file ⟨0, 0, false, ∅⟩ = o at hfollows ⊢
  cases hfollows with
  | @found _ _ s' _ => exact ⟨_, s', rfl, v.trees_renew⟩

end MemoryShell.Source.Recognizer
