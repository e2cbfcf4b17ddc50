import Mathlib.Data.List.Nodup
import MemoryShell.Command.Arguments
import MemoryShell.Command.Operands
import MemoryShell.Proofs.Outcome

/-!
What flags and operands are read from arguments. Up to the first argument that is two dashes, the letters
of the clusters are the flags and what stands beside the clusters is an operand; everything behind it is one
too. A letter that is not allowed stops the reading, and it is the first one that does. So the clusters may
change places with each other and with operands, and may be split, without any difference in what is read.
-/

set_option autoImplicit false

namespace MemoryShell

namespace Flags

/-- A dash in front, and something behind it. -/
def IsCluster (arg : Text) : Prop :=
  arg.head? = some dash ∧ arg ≠ [dash]

instance : DecidablePred IsCluster := fun _ =>
  inferInstanceAs (Decidable (_ ∧ _))

def behindDash (cluster : Text) : Text :=
  cluster.tail

def clustered (args : List Text) : Text :=
  (args.filter fun arg => IsCluster arg).flatMap behindDash

def beside (args : List Text) : List Text :=
  args.filter fun arg => ¬ IsCluster arg

def beforeDashes (args : List Text) : List Text :=
  args.take (args.idxOf ending)

def behindDashes (args : List Text) : List Text :=
  args.drop (args.idxOf ending + 1)

def ofTexts (allowed : Text) (args : List Text) : Except Failure SortedFlags :=
  SortedFlags.ofValue (.string allowed) (.array (args.map Json.string))

def permitted (allowed letters : Text) : Except CodePoint Text :=
  match letters.find? fun c => !allowed.contains c with
  | some c => .error c
  | none => .ok letters

/-- The letter is the first that is not allowed. -/
def FirstRefused (allowed letters : Text) (c : CodePoint) : Prop :=
  ∃ before after, letters = before ++ c :: after ∧ (∀ b ∈ before, b ∈ allowed) ∧ c ∉ allowed

/-- The same arguments but for their clusters, which are in other places among the same operands, or are
split into several with the same letters, or are put together again. -/
inductive Regrouped : List Text → List Text → Prop
  | moved {xs ys : List Text} : xs.Perm ys → beside xs = beside ys → Regrouped xs ys
  | split {cluster : Text} (before parts after : List Text) :
      IsCluster cluster → (∀ part ∈ parts, IsCluster part) →
      parts.flatMap behindDash = behindDash cluster →
      Regrouped (before ++ cluster :: after) (before ++ parts ++ after)
  | symm {xs ys : List Text} : Regrouped xs ys → Regrouped ys xs
  | trans {xs ys zs : List Text} : Regrouped xs ys → Regrouped ys zs → Regrouped xs zs

/-! ### Clusters -/

theorem isCluster_dashes : IsCluster ending := by decide

theorem behindDash_eq_dash_iff {arg : Text} (h : IsCluster arg) :
    behindDash arg = [dash] ↔ arg = ending := by
  obtain ⟨hhead, -⟩ := h
  unfold behindDash
  rw [← List.cons_head?_tail hhead]
  simp

theorem cluster?_of_isCluster {arg : Text} (h : IsCluster arg) :
    cluster? arg = some (behindDash arg) := by
  obtain ⟨hhead, hne⟩ := h
  obtain ⟨rest, rfl⟩ : ∃ rest, arg = dash :: rest := List.head?_eq_some_iff.mp hhead
  cases rest with
  | nil => exact absurd rfl hne
  | cons c cs => rfl

theorem cluster?_eq_none_iff {arg : Text} : cluster? arg = none ↔ ¬ IsCluster arg := by
  refine ⟨fun h hcluster => ?_, fun h => ?_⟩
  · rw [cluster?_of_isCluster hcluster] at h
    cases h
  · unfold cluster?
    split
    · refine if_neg fun hdash => h ⟨congrArg some hdash, ?_⟩
      simp
    · rfl

section

variable {front : List Text} {arg : Text}

@[simp] theorem clustered_nil : clustered [] = [] := rfl

@[simp] theorem beside_nil : beside [] = [] := rfl

theorem clustered_cons (h : IsCluster arg) (rest : List Text) :
    clustered (arg :: rest) = behindDash arg ++ clustered rest := by
  simp [clustered, h]

theorem clustered_cons_operand (h : ¬ IsCluster arg) (rest : List Text) :
    clustered (arg :: rest) = clustered rest := by
  simp [clustered, h]

theorem beside_cons (h : IsCluster arg) (rest : List Text) :
    beside (arg :: rest) = beside rest := by
  simp [beside, h]

theorem beside_cons_operand (h : ¬ IsCluster arg) (rest : List Text) :
    beside (arg :: rest) = arg :: beside rest := by
  simp [beside, h]

theorem clustered_append (xs ys : List Text) :
    clustered (xs ++ ys) = clustered xs ++ clustered ys := by
  simp [clustered]

theorem beside_append (xs ys : List Text) : beside (xs ++ ys) = beside xs ++ beside ys :=
  List.filter_append xs ys

theorem mem_clustered {args : List Text} {c : CodePoint} :
    c ∈ clustered args ↔ ∃ arg ∈ args, IsCluster arg ∧ c ∈ behindDash arg := by
  simp [clustered, and_assoc]

theorem beside_eq_nil (h : ∀ arg ∈ front, IsCluster arg) : beside front = [] := by
  simpa [beside] using h

theorem clustered_eq_flatMap (h : ∀ arg ∈ front, IsCluster arg) :
    clustered front = front.flatMap behindDash := by
  rw [clustered, List.filter_eq_self.mpr fun arg harg => decide_eq_true (h arg harg)]

end

/-! ### Reading -/

section

variable {allowed : Text}

theorem permitted_eq_error_iff {letters : Text} {c : CodePoint} :
    permitted allowed letters = .error c ↔ FirstRefused allowed letters c := by
  have hfound : permitted allowed letters = .error c ↔
      letters.find? (fun c => !allowed.contains c) = some c := by
    unfold permitted
    cases letters.find? fun c => !allowed.contains c <;> simp
  rw [hfound, List.find?_eq_some_iff_append, FirstRefused]
  simp only [Bool.not_eq_true', List.contains_eq_mem, decide_eq_false_iff_not, Bool.not_not,
    decide_eq_true_eq]
  exact ⟨fun ⟨hc, before, after, heq, hbefore⟩ => ⟨before, after, heq, hbefore, hc⟩,
    fun ⟨before, after, heq, hbefore, hc⟩ => ⟨hc, before, after, heq, hbefore⟩⟩

theorem permitted_eq_ok_iff {letters ls : Text} :
    permitted allowed letters = .ok ls ↔ (∀ c ∈ letters, c ∈ allowed) ∧ ls = letters := by
  have hall : letters.find? (fun c => !allowed.contains c) = none ↔ ∀ c ∈ letters, c ∈ allowed := by
    simp
  unfold permitted
  rw [← hall]
  cases letters.find? fun c => !allowed.contains c <;> simp [eq_comm]

theorem permitted_append (before after : Text) :
    permitted allowed (before ++ after) =
      permitted allowed before >>= fun _ =>
        (permitted allowed after).map fun _ => before ++ after := by
  unfold permitted
  rw [List.find?_append]
  cases before.find? fun c => !allowed.contains c with
  | some c => rfl
  | none => cases after.find? fun c => !allowed.contains c <;> rfl

theorem parse_cluster {arg : Text} (h : IsCluster arg) (hne : arg ≠ ending) (args : List Text) :
    parse allowed (arg :: args) = permitted allowed (behindDash arg) >>= fun ls =>
      (parse allowed args).map fun f => { f with letters := ls ++ f.letters } := by
  have hflags : behindDash arg ≠ [dash] := mt (behindDash_eq_dash_iff h).mp hne
  rw [parse, cluster?_of_isCluster h]
  simp only [if_neg hflags]
  unfold permitted
  cases (behindDash arg).find? fun c => !allowed.contains c <;> rfl

theorem parse_operand {arg : Text} (h : ¬ IsCluster arg) (args : List Text) :
    parse allowed (arg :: args) =
      (parse allowed args).map fun f => { f with operands := arg :: f.operands } := by
  rw [parse, cluster?_eq_none_iff.mpr h]

theorem parse_append {front : List Text} (h : ending ∉ front) (rest : List Text) :
    parse allowed (front ++ rest) = permitted allowed (clustered front) >>= fun ls =>
      (parse allowed rest).map fun f => ⟨ls ++ f.letters, beside front ++ f.operands⟩ := by
  induction front with
  | nil => cases hrest : parse allowed rest <;> simp [hrest, permitted, bind, Except.bind, Except.map]
  | cons arg front ih =>
    obtain ⟨hne, hfront⟩ := not_or.mp (mt List.mem_cons.mpr h)
    rw [List.cons_append]
    by_cases hcluster : IsCluster arg
    · rw [parse_cluster hcluster (Ne.symm hne), ih hfront, clustered_cons hcluster,
        beside_cons hcluster, permitted_append]
      cases hfirst : permitted allowed (behindDash arg) with
      | error c => rfl
      | ok ls =>
        obtain ⟨-, rfl⟩ := permitted_eq_ok_iff.mp hfirst
        cases hnext : permitted allowed (clustered front) with
        | error c => rfl
        | ok ms =>
          obtain ⟨-, rfl⟩ := permitted_eq_ok_iff.mp hnext
          cases parse allowed rest <;> simp [bind, Except.bind, Except.map]
    · rw [parse_operand hcluster, ih hfront, clustered_cons_operand hcluster,
        beside_cons_operand hcluster]
      cases permitted allowed (clustered front) with
      | error c => rfl
      | ok ls => cases parse allowed rest <;> rfl

theorem exists_behind_clusters (allowed : Text) (args : List Text) :
    ∃ rest, args = beforeDashes args ++ rest ∧ parse allowed rest = .ok ⟨[], behindDashes args⟩ := by
  by_cases h : ending ∈ args
  · have hlt := List.idxOf_lt_length_of_mem h
    have hrest : args.drop (args.idxOf ending) = ending :: behindDashes args := by
      rw [List.drop_eq_getElem_cons hlt, List.getElem_idxOf hlt]
      rfl
    refine ⟨args.drop (args.idxOf ending), (List.take_append_drop _ _).symm, ?_⟩
    rw [hrest]
    rfl
  · have hlength : args.idxOf ending = args.length := List.idxOf_eq_length h
    refine ⟨[], ?_, ?_⟩
    · rw [beforeDashes, hlength, List.take_length, List.append_nil]
    · rw [behindDashes, hlength, List.drop_eq_nil_of_le (Nat.le_succ _)]
      rfl

theorem dashes_not_mem_beforeDashes (args : List Text) : ending ∉ beforeDashes args := by
  intro h
  have hargs : ending ∈ args := List.mem_of_mem_take h
  exact Nat.lt_irrefl _ ((List.mem_take_iff_idxOf_lt hargs).mp h)

theorem parse_eq (args : List Text) :
    parse allowed args = (permitted allowed (clustered (beforeDashes args))).map fun ls =>
      ⟨ls, beside (beforeDashes args) ++ behindDashes args⟩ := by
  obtain ⟨rest, hargs, hrest⟩ := exists_behind_clusters allowed args
  have hread : parse allowed (beforeDashes args ++ rest) = _ :=
    parse_append (dashes_not_mem_beforeDashes args) rest
  rw [← hargs, hrest] at hread
  rw [hread]
  cases permitted allowed (clustered (beforeDashes args)) <;> simp [bind, Except.bind, Except.map]

theorem parse_eq_error_iff {args : List Text} {c : CodePoint} :
    parse allowed args = .error c ↔ FirstRefused allowed (clustered (beforeDashes args)) c := by
  rw [parse_eq, ← permitted_eq_error_iff]
  cases permitted allowed (clustered (beforeDashes args)) <;> simp [Except.map]

theorem parse_eq_ok_iff {args : List Text} {f : Flags} :
    parse allowed args = .ok f ↔ (∀ c ∈ clustered (beforeDashes args), c ∈ allowed) ∧
      f = ⟨clustered (beforeDashes args), beside (beforeDashes args) ++ behindDashes args⟩ := by
  constructor
  · intro h
    rw [parse_eq] at h
    obtain ⟨ls, hpermitted, rfl⟩ := ok_of_map_ok h
    obtain ⟨hall, rfl⟩ := permitted_eq_ok_iff.mp hpermitted
    exact ⟨hall, rfl⟩
  · rintro ⟨hall, rfl⟩
    rw [parse_eq, permitted_eq_ok_iff.mpr ⟨hall, rfl⟩]
    rfl

theorem parse_fails_iff {args : List Text} :
    (∃ c, parse allowed args = .error c) ↔
      ∃ arg ∈ beforeDashes args, IsCluster arg ∧ ∃ c ∈ behindDash arg, c ∉ allowed := by
  constructor
  · rintro ⟨c, hc⟩
    obtain ⟨before, after, heq, -, hrefused⟩ := parse_eq_error_iff.mp hc
    have hc : c ∈ clustered (beforeDashes args) := by
      rw [heq]
      simp
    obtain ⟨arg, harg, hcluster, hmem⟩ := mem_clustered.mp hc
    exact ⟨arg, harg, hcluster, c, hmem, hrefused⟩
  · rintro ⟨arg, harg, hcluster, c, hc, hrefused⟩
    cases hparse : parse allowed args with
    | error b => exact ⟨b, rfl⟩
    | ok f =>
      have hall := (parse_eq_ok_iff.mp hparse).1
      exact absurd (hall c (mem_clustered.mpr ⟨arg, harg, hcluster, hc⟩)) hrefused

end

/-! ### The set of flags -/

theorem nodup_eraseDups : (letters : Text) → letters.eraseDups.Nodup
  | [] => List.nodup_nil
  | c :: letters => by
    rw [List.eraseDups_cons, List.nodup_cons]
    exact ⟨by simp, nodup_eraseDups (letters.filter fun b => !b == c)⟩
termination_by letters => letters.length
decreasing_by
  exact Nat.lt_succ_of_le (List.length_filter_le _ _)

theorem has_iff {f : Flags} {c : CodePoint} : f.has c = true ↔ c ∈ f.letters := by
  simp [has]

theorem mem_sortedLetters {f : Flags} {c : CodePoint} : c ∈ f.sortedLetters ↔ f.has c = true := by
  rw [sortedLetters, (List.mergeSort_perm _ _).mem_iff, List.mem_eraseDups, has_iff]

theorem nodup_sortedLetters (f : Flags) : f.sortedLetters.Nodup :=
  (List.mergeSort_perm _ _).nodup_iff.mpr (nodup_eraseDups f.letters)

theorem sortedLetters_ascending (f : Flags) :
    f.sortedLetters.Pairwise fun a b => a.val < b.val := by
  have hsorted : f.sortedLetters.Pairwise fun a b => a.val ≤ b.val := by
    refine (List.pairwise_mergeSort ?_ ?_ _).imp fun h => of_decide_eq_true h
    · intro a b c hab hbc
      exact decide_eq_true (Nat.le_trans (of_decide_eq_true hab) (of_decide_eq_true hbc))
    · intro a b
      simpa using Nat.le_total a.val b.val
  exact hsorted.imp₂ (fun _ _ hle hne => Nat.lt_of_le_of_ne hle (mt Fin.val_inj.mp hne))
    f.nodup_sortedLetters

theorem sortedLetters_congr {f g : Flags} (h : ∀ c, f.has c = g.has c) :
    f.sortedLetters = g.sortedLetters := by
  have hf := f.sortedLetters_ascending
  have hg := g.sortedLetters_ascending
  have hperm : f.sortedLetters.Perm g.sortedLetters := by
    refine (List.perm_ext_iff_of_nodup f.nodup_sortedLetters g.nodup_sortedLetters).mpr fun c => ?_
    rw [mem_sortedLetters, mem_sortedLetters, h c]
  exact hperm.eq_of_pairwise (fun a b _ _ hab hba => absurd hab (Nat.lt_asymm hba)) hf hg

/-! ### Arguments that are values -/

theorem leadingTexts_texts (args : List Text) :
    SortedFlags.leadingTexts (args.map Json.string) = (args, []) := by
  induction args with
  | nil => rfl
  | cons arg args ih =>
    rw [List.map_cons, SortedFlags.leadingTexts, ih]

theorem allowedBy_ofString (allowed : Text) :
    SortedFlags.allowedBy (.string allowed) = allowed := by
  simp [SortedFlags.allowedBy, Mapping.items?, SortedFlags.letter?, Function.comp_def]

theorem ofTexts_eq (allowed : Text) (args : List Text) :
    ofTexts allowed args =
      match parse allowed args with
      | .ok f => .ok ⟨f.sortedLetters, f.operands.map Json.string⟩
      | .error c =>
        .error (.shell .invalidOperator (.string (Message.invalidOperator [c]))) := by
  have hitems : ofTexts allowed args =
      SortedFlags.ofItems (.string allowed) (args.map Json.string) := rfl
  rw [hitems, SortedFlags.ofItems, leadingTexts_texts, allowedBy_ofString]
  dsimp only
  cases parse allowed args <;> rfl

/-! ### Clusters in other places -/

theorem Regrouped.same_content {xs ys : List Text} (h : Regrouped xs ys) :
    beside xs = beside ys ∧ ∀ c, c ∈ clustered xs ↔ c ∈ clustered ys := by
  induction h with
  | moved hperm hbeside =>
    refine ⟨hbeside, fun c => ?_⟩
    exact ((hperm.filter _).flatMap_right behindDash).mem_iff
  | @split cluster before parts after hcluster hparts hletters =>
    have hone : clustered (cluster :: after) = clustered (parts ++ after) := by
      rw [clustered_cons hcluster, clustered_append, clustered_eq_flatMap hparts, hletters]
    have hnone : beside (cluster :: after) = beside (parts ++ after) := by
      rw [beside_cons hcluster, beside_append, beside_eq_nil hparts, List.nil_append]
    refine ⟨?_, fun c => ?_⟩
    · rw [List.append_assoc, beside_append, hnone, ← beside_append]
    · rw [List.append_assoc, clustered_append, hone, ← clustered_append]
  | symm _ ih => exact ⟨ih.1.symm, fun c => (ih.2 c).symm⟩
  | trans _ _ ih₁ ih₂ => exact ⟨ih₁.1.trans ih₂.1, fun c => (ih₁.2 c).trans (ih₂.2 c)⟩

theorem parse_regrouped {allowed : Text} {xs ys rest : List Text} {f : Flags}
    (h : Regrouped xs ys) (hxs : ending ∉ xs) (hys : ending ∉ ys ∨ dash ∉ allowed)
    (hf : parse allowed (xs ++ rest) = .ok f) :
    ∃ g, parse allowed (ys ++ rest) = .ok g ∧ g.operands = f.operands ∧
      ∀ c, g.has c = f.has c := by
  obtain ⟨hbeside, hletters⟩ := h.same_content
  rw [parse_append hxs] at hf
  obtain ⟨ls, hpermitted, hf⟩ := ok_of_bind_ok hf
  obtain ⟨r, hrest, rfl⟩ := ok_of_map_ok hf
  obtain ⟨hall, rfl⟩ := permitted_eq_ok_iff.mp hpermitted
  have hallowed : ∀ c ∈ clustered ys, c ∈ allowed := fun c hc => hall c ((hletters c).mpr hc)
  -- two dashes among the arguments would have a dash as their letter
  have hdashes : ending ∉ ys := hys.elim id fun hdash hmem =>
    hdash (hallowed dash (mem_clustered.mpr ⟨ending, hmem, isCluster_dashes, by decide⟩))
  refine ⟨⟨clustered ys ++ r.letters, beside ys ++ r.operands⟩, ?_, ?_, fun c => ?_⟩
  · rw [parse_append hdashes, permitted_eq_ok_iff.mpr ⟨hallowed, rfl⟩, hrest]
    rfl
  · rw [hbeside]
  · rw [Bool.eq_iff_iff, has_iff, has_iff, List.mem_append, List.mem_append, hletters c]

/-- Arguments are refused just in case that a cluster before the first two dashes has a letter that is not
allowed; the first such letter in the order of reading is reported as no valid operator. Otherwise the flags
are the letters of these clusters, each listed once and in order, and the operands are what stands beside the
clusters and then everything behind the two dashes. What is read stays the same if clusters before the two
dashes change places with each other or with operands, or are split into clusters with the same letters; a
part must not be two dashes, which none is if no dash is allowed as a letter. -/
theorem clusters_read_exactly :
    (∀ (allowed : Text) (args : List Text),
      ((∃ c, parse allowed args = .error c) ↔
        ∃ arg ∈ beforeDashes args, IsCluster arg ∧ ∃ c ∈ behindDash arg, c ∉ allowed) ∧
      (∀ c, parse allowed args = .error c ↔
        FirstRefused allowed (clustered (beforeDashes args)) c) ∧
      (∀ c, parse allowed args = .error c →
        Commands.flagsOf allowed args =
          .error (.refused .invalidOperator (Message.invalidOperator [c])) ∧
        ofTexts allowed args = .error
          (.shell .invalidOperator (.string (Message.invalidOperator [c])))) ∧
      ((∀ arg ∈ beforeDashes args, IsCluster arg → ∀ c ∈ behindDash arg, c ∈ allowed) →
        ∃ f, parse allowed args = .ok f ∧ Commands.flagsOf allowed args = .ok f ∧
          ofTexts allowed args = .ok ⟨f.sortedLetters, f.operands.map Json.string⟩ ∧
          f.operands = beside (beforeDashes args) ++ behindDashes args ∧
          (∀ c, f.has c = true ↔
            ∃ arg ∈ beforeDashes args, IsCluster arg ∧ c ∈ behindDash arg) ∧
          (∀ c, c ∈ f.sortedLetters ↔ f.has c = true) ∧
          f.sortedLetters.Pairwise fun a b => a.val < b.val)) ∧
    ∀ (allowed : Text) (xs ys rest : List Text), Regrouped xs ys → ending ∉ xs →
      (ending ∉ ys ∨ dash ∉ allowed) → ∀ f, parse allowed (xs ++ rest) = .ok f →
        ∃ g, parse allowed (ys ++ rest) = .ok g ∧ g.operands = f.operands ∧
          (∀ c, g.has c = f.has c) ∧
          ofTexts allowed (ys ++ rest) = ofTexts allowed (xs ++ rest) := by
  refine ⟨fun allowed args => ⟨parse_fails_iff, fun c => parse_eq_error_iff, fun c hc => ?_,
    fun hall => ?_⟩, fun allowed xs ys rest h hxs hys f hf => ?_⟩
  · rw [ofTexts_eq, Commands.flagsOf, hc]
    exact ⟨rfl, rfl⟩
  · have hallowed : ∀ c ∈ clustered (beforeDashes args), c ∈ allowed := by
      intro c hc
      obtain ⟨arg, harg, hcluster, hmem⟩ := mem_clustered.mp hc
      exact hall arg harg hcluster c hmem
    have hparse := parse_eq_ok_iff.mpr ⟨hallowed, rfl⟩
    refine ⟨_, hparse, ?_, ?_, rfl, fun c => ?_, fun c => mem_sortedLetters,
      sortedLetters_ascending _⟩
    · rw [Commands.flagsOf, hparse]
    · rw [ofTexts_eq, hparse]
    · rw [has_iff, mem_clustered]
  · obtain ⟨g, hg, hoperands, hhas⟩ := parse_regrouped h hxs hys hf
    refine ⟨g, hg, hoperands, hhas, ?_⟩
    rw [ofTexts_eq, ofTexts_eq, hg, hf]
    simp only [sortedLetters_congr hhas, hoperands]

/-- A cluster before two dashes, and what looks like clusters behind them. The cluster is split, and one part
is put behind an operand. A letter that is not allowed hides a later one. -/
theorem clusters_read_exactly_around_dashes :
    ofTexts ['r', 'f'] ["-rfr", "a", "--", "-b", "--", "-"] =
      .ok ⟨['f', 'r'], (["a", "-b", "--", "-"] : List Text).map Json.string⟩ ∧
    ofTexts ['r', 'f'] ["-fr", "a", "-r", "--", "-b", "--", "-"] =
      .ok ⟨['f', 'r'], (["a", "-b", "--", "-"] : List Text).map Json.string⟩ ∧
    ofTexts ['r'] ["-r", "-", "-rzf", "-x"] =
      .error (.shell .invalidOperator (.string (Message.invalidOperator "z"))) := by
  obtain ⟨hread, hregrouped⟩ := clusters_read_exactly
  obtain ⟨-, -, -, hallowed⟩ := hread ['r', 'f'] ["-rfr", "a", "--", "-b", "--", "-"]
  have hfront : beforeDashes ["-rfr", "a", "--", "-b", "--", "-"] = (["-rfr", "a"] : List Text) := rfl
  obtain ⟨f, hf, -, hvalue, -⟩ := hallowed <| by
    rw [hfront]
    simp [behindDash, Text.ofString, Text.ofChars]
  have hmoved : Regrouped ["-rfr", "a"] ["-fr", "a", "-r"] :=
    (Regrouped.split [] ["-r", "-fr"] ["a"] (by decide) (by decide) (by decide)).trans
      (.moved (by decide) (by decide))
  obtain ⟨-, -, -, -, hsame⟩ := hregrouped ['r', 'f'] _ _ ["--", "-b", "--", "-"] hmoved (by decide)
    (.inr (by decide)) f hf
  obtain rfl : ⟨['r', 'f', 'r'], ["a", "-b", "--", "-"]⟩ = f := Except.ok.inj hf
  have hletters : sortedLetters ⟨['r', 'f', 'r'], ["a", "-b", "--", "-"]⟩ = ['f', 'r'] := by
    simp [sortedLetters, List.eraseDups_cons, List.mergeSort, List.merge]
    decide
  rw [hletters] at hvalue
  obtain ⟨-, hfirst, hrefused, -⟩ := hread ['r'] ["-r", "-", "-rzf", "-x"]
  have hz : FirstRefused ['r'] (clustered (beforeDashes ["-r", "-", "-rzf", "-x"])) 'z' :=
    ⟨['r', 'r'], ['f', 'x'], by decide, by simp, by decide⟩
  exact ⟨hvalue, hsame.trans hvalue, (hrefused 'z' ((hfirst 'z').mpr hz)).2⟩

/-- Two dashes are no part into which a cluster can be split, even where a dash is allowed as a letter. -/
example : parse ['a', '-'] ["-a-", "-a"] = .ok ⟨['a', '-', 'a'], []⟩ ∧
    parse ['a', '-'] ["-a", "--", "-a"] = .ok ⟨['a'], ["-a"]⟩ :=
  ⟨rfl, rfl⟩

end Flags

end MemoryShell
