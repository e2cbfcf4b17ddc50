import MemoryShell.Proofs.Volume.History
import MemoryShell.Proofs.Volume.Refinement
import MemoryShell.Proofs.Volume.Respelling

/-!
A volume is a flat map. Every volume that comes about, as long as it is open, stands for the flat map
of its paths; each operation at absolute spellings does to it what it does to the map.
-/

set_option autoImplicit false

namespace MemoryShell

namespace Node

theorem walk_first_failure (root : Node) (p : Path) :
    (∃ child, root.walk p = .ok child ∧ root.entry p = some child.toEntry) ∨
      ∃ q name rest, p = q ++ name :: rest ∧
        ((root.walk p = .error .noEntry ∧ root.entry (q ++ [name]) = none ∧
            ∃ mode, root.entry q = some (.directory mode)) ∨
          (root.walk p = .error .notDirectory ∧
            ∃ mode data, root.entry q = some (.file mode data))) := by
  cases hw : root.walk p with
  | ok child => exact .inl ⟨child, rfl, entry_of_walk hw⟩
  | error e =>
    obtain ⟨q, name, rest, above, rfl, hq, hmiss, rfl⟩ := exists_failure_of_walk_eq_error hw
    refine .inr ⟨q, name, rest, rfl, ?_⟩
    cases above with
    | file s data => exact .inr ⟨rfl, s.mode, data, entry_of_walk hq⟩
    | directory s es =>
      refine .inl ⟨rfl, ?_, s.mode, entry_of_walk hq⟩
      rw [entry, at?_name hq, hmiss s es rfl, Option.map_none]

end Node

namespace Volume

theorem parse?_of_located? {op : Operation} {fop : FlatOperation} (h : op.located? = some fop) :
    ∀ s ∈ op.spellings, (Path.parse? s).isSome = true := by
  cases op with
  | copyFile source destination =>
    simp only [Operation.located?] at h
    split at h
    · rename_i p q hp hq
      simp [Operation.spellings, hp, hq]
    · cases h
  | _ =>
    obtain ⟨p, hp, -⟩ := Option.map_eq_some_iff.mp h
    simp [Operation.spellings, hp]

theorem located?_normalize (op : Operation) : op.normalize.located? = op.located? := by
  cases op <;> simp only [Operation.normalize, Operation.located?, parse?_normalize]

theorem perform_same_of_normalize_eq {op other : Operation} {fop : FlatOperation}
    (hop : op.located? = some fop) (h : op.normalize = other.normalize) (now : Int) (v : Volume) :
    SameOutcome (outcome (op.perform now) v) (outcome (other.perform now) v) := by
  have hother : other.located? = some fop := by
    rw [← located?_normalize, ← h, located?_normalize, hop]
  have h₁ := perform_normalize_same (parse?_of_located? hop) now v
  have h₂ := perform_normalize_same (parse?_of_located? hother) now v
  rw [← h] at h₂
  exact ⟨Eq.trans h₁.1 (Eq.symm h₂.1), h₁.2.trans h₂.2.symm⟩

theorem exists_iff_listed {v : Volume} (hr : v.released = false) {spelling above : Text} {q : Path}
    {name : Name} (hp : Path.parse? spelling = some (q ++ [name]))
    (hq : Path.parse? above = some q) :
    (outcome (exists? spelling) v).1 = .ok true ↔
      ∃ ns, (outcome (readDirectory above) v).1 = .ok ns ∧ name ∈ ns := by
  rw [outcome_exists?, outcome_readDirectory, find_of_parse? hr hp, find_of_parse? hr hq]
  cases hw : v.root.walk q with
  | error e =>
    rw [Node.walk_append_error hw]
    simp only [mapError_error]
    split <;> simp
  | ok node =>
    rw [Node.walk_append_ok hw]
    cases node with
    | file s data => simp [Node.walk_file_cons, Errno.isMissing]
    | directory s es =>
      have hlisted : (∃ ns, Except.ok (es.map Prod.fst) = (Except.ok ns : Except Error _) ∧
          name ∈ ns) ↔ name ∈ Entries.names es := by
        simp [Entries.names]
      rw [Node.walk_directory_cons]
      simp only [mapError_ok, hlisted]
      cases hf : Entries.find? es name with
      | none => simp [Entries.find?_eq_none_iff.mp hf, Errno.isMissing]
      | some child =>
        have hmem : name ∈ Entries.names es := Entries.isSome_find?_iff.mp (by rw [hf, Option.isSome_some])
        simp [hmem]

theorem lookup_first_failure {v : Volume} (hr : v.released = false) {spelling : Text} {p : Path}
    (hp : Path.parse? spelling = some p) :
    (∃ node, (outcome (lookup spelling) v).1 = .ok node ∧
        v.root.entry p = some node.toEntry) ∨
      ∃ q name rest, p = q ++ name :: rest ∧
        (((outcome (lookup spelling) v).1 = .error (.file .noEntry spelling) ∧
            v.root.entry (q ++ [name]) = none ∧ ∃ mode, v.root.entry q = some (.directory mode)) ∨
          ((outcome (lookup spelling) v).1 = .error (.file .notDirectory spelling) ∧
            ∃ mode data, v.root.entry q = some (.file mode data))) := by
  rw [outcome_lookup, find_of_parse? hr hp]
  rcases Node.walk_first_failure v.root p with
    ⟨node, hw, he⟩ | ⟨q, name, rest, hsplit, ⟨hw, hfree, hd⟩ | ⟨hw, hfile⟩⟩
  · exact .inl ⟨node, by rw [hw, mapError_ok], he⟩
  · exact .inr ⟨q, name, rest, hsplit, .inl ⟨by rw [hw, mapError_error], hfree, hd⟩⟩
  · exact .inr ⟨q, name, rest, hsplit, .inr ⟨by rw [hw, mapError_error], hfile⟩⟩

/-- An open volume refines the flat map of its paths. Every operation at absolute spellings gives
the answer that it gives on the map and leaves a volume whose map is the changed one; a lookup fails
at the first prefix that is in the way; a path exists exactly if it is listed; and only the normal
form of a spelling counts. -/
theorem refines_flat_map {start : Int} {history : List (Int × Event)} {v : Volume}
    (hv : after start history = v) (hr : v.released = false) :
    ∃ hroot : v.root.isDirectory = true,
      (∀ (now : Int) (op : Operation) (fop : FlatOperation), op.located? = some fop →
        ∃ hroot' : (outcome (op.perform now) v).2.root.isDirectory = true,
          view (outcome (op.perform now) v).1 = some ((v.root.pathMap hroot).perform fop).1 ∧
          (outcome (op.perform now) v).2.released = false ∧
          (outcome (op.perform now) v).2.root.pathMap hroot' =
            ((v.root.pathMap hroot).perform fop).2) ∧
      (∀ (spelling : Text) (p : Path), Path.parse? spelling = some p →
        (∃ node, (outcome (lookup spelling) v).1 = .ok node ∧
            (v.root.pathMap hroot).entry p = some node.toEntry) ∨
          ∃ q name rest, p = q ++ name :: rest ∧
            (((outcome (lookup spelling) v).1 = .error (.file .noEntry spelling) ∧
                (v.root.pathMap hroot).entry (q ++ [name]) = none ∧
                ∃ mode, (v.root.pathMap hroot).entry q = some (.directory mode)) ∨
              ((outcome (lookup spelling) v).1 = .error (.file .notDirectory spelling) ∧
                ∃ mode data, (v.root.pathMap hroot).entry q = some (.file mode data)))) ∧
      (∀ (spelling above : Text) (q : Path) (name : Name),
        Path.parse? spelling = some (q ++ [name]) → Path.parse? above = some q →
        ((outcome (exists? spelling) v).1 = .ok true ↔
          ∃ ns, (outcome (readDirectory above) v).1 = .ok ns ∧ name ∈ ns)) ∧
      (∀ (now : Int) (op other : Operation), op.located?.isSome = true →
        op.normalize = other.normalize →
        SameOutcome (outcome (op.perform now) v) (outcome (other.perform now) v)) := by
  have hwell : WellFormed v := hv ▸ wellFormed_after start history
  have hdepicts := Node.depicts_pathMap v.root hwell.root
  refine ⟨hwell.root, ?_, ?_, ?_, ?_⟩
  · intro now op fop hop
    have hmatches := matches_perform hdepicts hwell.ordered hr hop now
    have hroot' := (hwell.perform op now).root
    exact ⟨hroot', hmatches.answer, hmatches.isOpen, Node.eq_pathMap hmatches.depicts hroot'⟩
  · exact fun spelling p hp => lookup_first_failure hr hp
  · exact fun spelling above q name hp hq => exists_iff_listed hr hp hq
  · intro now op other hop h
    obtain ⟨fop, hfop⟩ := Option.isSome_iff_exists.mp hop
    exact perform_same_of_normalize_eq hfop h now v

/-- A file written into a new directory is read back through another spelling, on the volume and on
its map. -/
theorem refines_flat_map_written_file :
    let v := after 0 [(1, .performed (.makeDirectory (.ofString "/a") false)),
      (2, .performed (.write .replace (.ofString "/a/f") (.octets [104, 105])))]
    v.released = false ∧ ∃ (p : Path) (hroot : v.root.isDirectory = true),
      Path.parse? (.ofString "/a/../a/./f") = some p ∧
      (v.root.pathMap hroot).entry p = some (.file 0o666 [104, 105]) ∧
      view (outcome (Operation.perform 3 (.read (.ofString "/a/../a/./f") none)) v).1 =
        some ((v.root.pathMap hroot).perform (.read p none)).1 := by
  intro v
  have hr : v.released = false := rfl
  obtain ⟨hroot, hop, -⟩ := refines_flat_map (v := v) rfl hr
  obtain ⟨p, hp⟩ := Option.isSome_iff_exists.mp
    (show (Path.parse? (.ofString "/a/../a/./f")).isSome = true from rfl)
  obtain ⟨-, hview, -⟩ := hop 3 (.read (.ofString "/a/../a/./f") none) (.read p none)
    (by simp [Operation.located?, hp])
  refine ⟨hr, p, hroot, hp, ?_, hview⟩
  obtain rfl := Option.some.inj hp
  rfl

end Volume

end MemoryShell
