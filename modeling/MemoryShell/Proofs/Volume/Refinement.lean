import MemoryShell.Proofs.Volume.Finding
import MemoryShell.Proofs.Volume.FlatView

set_option autoImplicit false

namespace MemoryShell

namespace PathMap

/-- A flat map shows what stands at each path of a tree. -/
def Depicts (m : PathMap) (root : Node) : Prop :=
  ∀ p, m.entry p = root.entry p

variable {m : PathMap} {root : Node}

theorem Depicts.isFile (hm : m.Depicts root) (p : Path) :
    m.isFile p = (root.at? p).any fun child => !child.isDirectory := by
  rw [PathMap.isFile, hm p, Node.entry]
  cases root.at? p with
  | none => rfl
  | some child => cases child <;> rfl

theorem Depicts.isBlocked (hm : m.Depicts root) (p : Path) :
    m.isBlocked p =
      match root.walk p with
      | .ok child => !child.isDirectory
      | .error e => e = .notDirectory := by
  rw [PathMap.isBlocked, funext hm.isFile]
  exact Node.any_isFile_inits root p

theorem Depicts.exists_directory (hm : m.Depicts root) {p : Path} (hd : m.isDirectory p = true) :
    ∃ s es, root.walk p = .ok (.directory s es) := by
  obtain ⟨mode, hmode⟩ := (m.isDirectory_iff p).mp hd
  obtain ⟨s, es, hw, -⟩ := Node.entry_eq_directory.mp ((hm p).symm.trans hmode)
  exact ⟨s, es, hw⟩

theorem Depicts.find (hm : m.Depicts root) (p : Path) :
    m.find p = (root.walk p).map Node.toEntry := by
  rw [PathMap.find, hm p]
  cases hw : root.walk p with
  | ok child => rw [Node.entry_of_walk hw, Except.map]
  | error e =>
    rw [Node.entry_eq_none.mpr ⟨e, hw⟩, hm.isBlocked, hw]
    obtain ⟨q, name, rest, above, -, -, -, rfl⟩ := Node.exists_failure_of_walk_eq_error hw
    cases above.isDirectory <;> rfl

theorem mem_names_iff (m : PathMap) (p : Path) (n : Name) :
    n ∈ m.names p ↔ (m.entry (p ++ [n])).isSome = true := by
  rw [names, Finset.mem_sort, Finset.mem_biUnion]
  constructor
  · rintro ⟨q, hq, hn⟩
    split at hn
    · rename_i hd
      rw [Option.mem_toFinset, Option.mem_def] at hn
      rw [← hd, List.dropLast_append_getLast? n hn]
      exact (m.mem_paths q).mp hq
    · simp at hn
  · intro h
    exact ⟨p ++ [n], (m.mem_paths _).mpr h, by simp⟩

theorem Depicts.names (hm : m.Depicts root) (ho : root.Everywhere Node.InOrder) {p : Path}
    {s : Stamp} {es : Entries} (hw : root.walk p = .ok (.directory s es)) :
    m.names p = es.names := by
  have hsorted : Entries.Sorted es := (ho.below hw).here
  refine List.Perm.eq_of_pairwise' (Finset.pairwise_sort _ _)
    (hsorted.imp fun h => le_of_lt h)
    ((List.perm_ext_iff_of_nodup (Finset.sort_nodup _ _) hsorted.nodup).mpr fun n => ?_)
  rw [← PathMap.names, mem_names_iff, hm, Node.entry_append, Node.at?_eq_some.mpr hw,
    Option.bind_some, Node.entry_directory_cons, ← Entries.isSome_find?_iff]
  cases Entries.find? es n <;> simp

theorem allows_mode (s : Stamp) (request : Int) : allows s.mode request = s.allows request :=
  rfl

end PathMap

namespace Node

def pathMap (root : Node) (h : root.isDirectory = true) : PathMap where
  paths := ((root.nodes.map Prod.fst).filter fun p => (root.entry p).isSome).toFinset
  entry := root.entry
  mem_paths p := by
    simp only [List.mem_toFinset, List.mem_filter, List.mem_map, and_iff_right_iff_imp]
    intro hp
    obtain ⟨e, he⟩ := Option.isSome_iff_exists.mp hp
    obtain ⟨child, hw, -⟩ := entry_eq_some.mp he
    exact ⟨(p, child), mem_nodes_of_walk hw, rfl⟩
  root := by
    cases root with
    | file s data => cases h
    | directory s es => exact ⟨s.mode, entry_nil _⟩
  closed p name hp := exists_directory_of_entry hp

theorem depicts_pathMap (root : Node) (h : root.isDirectory = true) :
    (root.pathMap h).Depicts root := fun _ => rfl

theorem eq_pathMap {m : PathMap} {root : Node} (hm : m.Depicts root)
    (h : root.isDirectory = true) : root.pathMap h = m :=
  PathMap.ext_entry fun p => (hm p).symm

end Node

namespace Volume

open PathMap

variable {m : PathMap} {v : Volume} {spelling : Text} {p : Path}

theorem slot_cases (hm : m.Depicts v.root) (hr : v.released = false)
    (hp : Path.parse? spelling = some p) :
    (∃ e t, v.slot spelling = .error (.file e t) ∧ m.parent p = .error e) ∨
      ∃ s es name, v.slot spelling = .ok ⟨p.dropLast, s, es, name⟩ ∧
        m.parent p = .ok s.mode ∧ p.getLast? = some name ∧ p = p.dropLast ++ [name] ∧
        v.root.walk p.dropLast = .ok (.directory s es) ∧
        m.entry p = (Entries.find? es name).map Node.toEntry := by
  unfold slot parent
  rw [hp]
  cases hl : p.getLast? with
  | none =>
    obtain rfl := List.getLast?_eq_none_iff.mp hl
    exact .inl ⟨.notPermitted, spelling, rfl, rfl⟩
  | some name =>
    have hsplit : p = p.dropLast ++ [name] := (List.dropLast_append_getLast? name hl).symm
    have hne : p ≠ [] := by
      rintro rfl
      simp at hl
    simp only [hl, find_of_parse? hr (Path.parse?_text p.dropLast), hm.find, if_neg hne]
    cases hw : v.root.walk p.dropLast with
    | error e => exact .inl ⟨e, _, rfl, rfl⟩
    | ok above =>
      cases above with
      | file s data => exact .inl ⟨.notDirectory, spelling, rfl, rfl⟩
      | directory s es =>
        refine .inr ⟨s, es, name, rfl, rfl, rfl, hsplit, rfl, ?_⟩
        rw [hm, hsplit, Node.entry_append, Node.at?_eq_some.mpr hw, Option.bind_some,
          Node.entry_directory_cons]
        cases Entries.find? es name <;> simp

theorem depicts_placed (hm : m.Depicts v.root) {s : Stamp} {es : Entries}
    (hw : v.root.walk p = .ok (.directory s es)) {name : Name}
    (hfree : Entries.find? es name = none) (new : Node)
    (hnew : ∀ n rest, new.entry (n :: rest) = none) (now : Int) :
    (m.put p name new.toEntry).Depicts (v.placed now p name new).root := by
  intro q
  have hd : m.isDirectory p = true :=
    (m.isDirectory_iff p).mpr ⟨s.mode, by rw [hm, Node.entry_of_walk hw, Node.toEntry]⟩
  have hmissing : m.entry (p ++ [name]) = none := by
    rw [hm, Node.entry_append, Node.at?_eq_some.mpr hw, Option.bind_some,
      Node.entry_directory_cons, hfree, Option.bind_none]
  rw [entry_put hd hmissing, hm q]
  exact (Node.entry_insert hw hfree hnew now q).symm

theorem depicts_emptied (hm : m.Depicts v.root) {s : Stamp} {es : Entries}
    (hw : v.root.walk p = .ok (.directory s es)) (name : Name) (now : Int) :
    (m.without (p ++ [name])).Depicts (v.emptied now p name).root := by
  intro q
  rw [entry_without m (by simp), hm q]
  exact (Node.entry_erase hw name now q).symm

theorem depicts_setData (hm : m.Depicts v.root) (g : Bytes → Bytes) (now : Int) (p : Path) :
    (m.alter p (.mapData g) (FlatEntry.kind_mapData g)).Depicts
      (v.changed p fun node => (node.setData g).touch now).root := by
  intro q
  rw [entry_alter, hm q]
  exact (Node.entry_setData g now p q v.root).symm

theorem depicts_setMode (hm : m.Depicts v.root) (mode : Nat) (p : Path) :
    (m.alter p (.withMode mode) (FlatEntry.kind_withMode mode)).Depicts
      (v.changed p (Node.mapStamp fun s => { s with mode })).root := by
  intro q
  rw [entry_alter, hm q]
  exact (Node.entry_setMode mode p q v.root).symm

theorem depicts_setTime (hm : m.Depicts v.root) (t : Json) (p : Path) :
    m.Depicts (v.changed p (Node.setTime t)).root := by
  intro q
  rw [hm q]
  exact (Node.entry_setTime t p q v.root).symm

def Error.flat? : Error → Option FlatError
  | .file e _ => some (.file e)
  | .unencodable => some .unencodable
  | .unknownEncoding name => some (.unknownEncoding name)
  | .nullInEncoding => some .nullInEncoding
  | .relative _ => none
  | .released => none
  | .endless => none
  | .tooDeep => none

def Value.flat : Value → FlatValue
  | .nothing => .nothing
  | .flag b => .flag b
  | .stat s => .stat s.path s.kind s.size s.mode
  | .names ns => .names ns
  | .text s => .text s
  | .octets bs => .octets bs

def view : Except Error Value → Option (Except FlatError FlatValue)
  | .ok a => some (.ok a.flat)
  | .error e => e.flat?.map .error

def Operation.located? : Operation → Option FlatOperation
  | .exists s => (Path.parse? s).map .exists
  | .stat s => (Path.parse? s).map .stat
  | .access s request => (Path.parse? s).map (.access · request)
  | .readDirectory s => (Path.parse? s).map .readDirectory
  | .read s encoding => (Path.parse? s).map (.read · encoding)
  | .write mode s content => (Path.parse? s).map (.write mode · content)
  | .makeDirectory s recursive => (Path.parse? s).map (.makeDirectory · recursive)
  | .copyFile source destination =>
    match Path.parse? source, Path.parse? destination with
    | some p, some q => some (.copyFile p q)
    | _, _ => none
  | .remove s recursive force => (Path.parse? s).map (.remove · recursive force)
  | .setTimes s _ => (Path.parse? s).map .setTimes
  | .setMode s mode => (Path.parse? s).map (.setMode · mode)

/-- What a volume comes to is what a flat map comes to. -/
structure Matches (r : Except Error Value × Volume) (t : Except FlatError FlatValue × PathMap) :
    Prop where
  answer : view r.1 = some t.1
  isOpen : r.2.released = false
  depicts : t.2.Depicts r.2.root

theorem matches_exists (hm : m.Depicts v.root) (hr : v.released = false)
    (hp : Path.parse? spelling = some p) (now : Int) :
    Matches (outcome (Operation.perform now (.exists spelling)) v) (m.perform (.exists p)) := by
  rw [Operation.perform, outcome_map, outcome_exists?, find_of_parse? hr hp]
  refine ⟨?_, hr, hm⟩
  rw [PathMap.perform, hm p]
  cases hw : v.root.walk p with
  | ok child => simp [Node.entry_of_walk hw, Except.map, view, Value.flat]
  | error e =>
    have hmissing : e.isMissing = true := by
      obtain ⟨q, name, rest, above, -, -, -, rfl⟩ := Node.exists_failure_of_walk_eq_error hw
      cases above.isDirectory <;> rfl
    simp [Node.entry_eq_none.mpr ⟨e, hw⟩, Except.map, hmissing, view, Value.flat]

theorem matches_stat (hm : m.Depicts v.root) (hr : v.released = false)
    (hp : Path.parse? spelling = some p) (now : Int) :
    Matches (outcome (Operation.perform now (.stat spelling)) v) (m.perform (.stat p)) := by
  rw [Operation.perform, outcome_map, outcome_stat, find_of_parse? hr hp, hp]
  refine ⟨?_, hr, hm⟩
  rw [PathMap.perform, hm.find]
  cases v.root.walk p with
  | error e => rfl
  | ok child => cases child <;> rfl

theorem matches_access (hm : m.Depicts v.root) (hr : v.released = false)
    (hp : Path.parse? spelling = some p) (request now : Int) :
    Matches (outcome (Operation.perform now (.access spelling request)) v)
      (m.perform (.access p request)) := by
  rw [Operation.perform, outcome_silent, outcome_access, find_of_parse? hr hp, PathMap.perform,
    hm.find]
  cases v.root.walk p with
  | error e => exact ⟨rfl, hr, hm⟩
  | ok child =>
    have hmode : child.toEntry.mode = child.stamp.mode := by cases child <;> rfl
    refine ⟨?_, hr, hm⟩
    simp only [mapError_ok, Except.map, Except.bind, demanded, hmode, allows_mode]
    by_cases h : child.stamp.allows request <;> simp [h, view, Value.flat, Error.flat?]

theorem matches_readDirectory (hm : m.Depicts v.root) (ho : v.root.Everywhere Node.InOrder)
    (hr : v.released = false) (hp : Path.parse? spelling = some p) (now : Int) :
    Matches (outcome (Operation.perform now (.readDirectory spelling)) v)
      (m.perform (.readDirectory p)) := by
  rw [Operation.perform, outcome_map, outcome_readDirectory, find_of_parse? hr hp, PathMap.perform,
    hm.find]
  cases hw : v.root.walk p with
  | error e => exact ⟨rfl, hr, hm⟩
  | ok child =>
    cases child with
    | file s data => exact ⟨rfl, hr, hm⟩
    | directory s es =>
      refine ⟨?_, hr, hm⟩
      rw [hm.names ho hw]
      rfl

theorem fileData_cases (hm : m.Depicts v.root) (hr : v.released = false)
    (hp : Path.parse? spelling = some p) :
    (∃ e t, v.fileData spelling = .error (.file e t) ∧ m.read p = .error (.file e)) ∨
      ∃ data, v.fileData spelling = .ok data ∧ m.read p = .ok data := by
  rw [fileData, find_of_parse? hr hp, PathMap.read, hm.find]
  cases v.root.walk p with
  | error e => exact .inl ⟨e, spelling, rfl, rfl⟩
  | ok child =>
    cases child with
    | directory s es => exact .inl ⟨_, _, rfl, rfl⟩
    | file s data =>
      simp only [mapError_ok, Except.map, Node.toEntry, demanded, allows_mode]
      by_cases h : s.allows Access.read.flag
      · exact .inr ⟨data, by simp [h], by simp [h]⟩
      · exact .inl ⟨.accessDenied, spelling, by simp [h], by simp [h]⟩

theorem matches_read (hm : m.Depicts v.root) (hr : v.released = false)
    (hp : Path.parse? spelling = some p) (encoding : Option String) (now : Int) :
    Matches (outcome (Operation.perform now (.read spelling encoding)) v)
      (m.perform (.read p encoding)) := by
  cases encoding with
  | none =>
    rw [Operation.perform, outcome_map, outcome_readFile, PathMap.perform]
    refine ⟨?_, hr, hm⟩
    rcases fileData_cases hm hr hp with ⟨e, t, hv, hmap⟩ | ⟨data, hv, hmap⟩
    · rw [hv, hmap]
      rfl
    · rw [hv, hmap]
      rfl
  | some name =>
    rw [Operation.perform, outcome_map, outcome_readText, PathMap.perform]
    refine ⟨?_, hr, hm⟩
    rcases fileData_cases hm hr hp with ⟨e, t, hv, hmap⟩ | ⟨data, hv, hmap⟩
    · rw [fileText, hv, hmap]
      rfl
    · rw [fileText, hv, hmap]
      simp only [Except.bind, decode]
      by_cases hnull : name.toList.contains '\x00' = true
      · simp only [hnull, if_true]
        rfl
      · simp only [hnull]
        cases Encoding.ofName? name with
        | some e => rfl
        | none => cases data.isEmpty <;> rfl

theorem matches_writeFile (hm : m.Depicts v.root) (hr : v.released = false)
    (hp : Path.parse? spelling = some p) (mode : WriteMode) (data : Bytes) (now : Int) :
    Matches (outcome (silent (writeFile now mode spelling data)) v) (m.write mode p data) := by
  rw [outcome_silent, outcome_writeFile, writable, PathMap.write]
  rcases slot_cases hm hr hp with ⟨e, t, hslot, hparent⟩ |
    ⟨s, es, name, hslot, hparent, hlast, hsplit, hw, hentry⟩
  · rw [hslot, hparent]
    exact ⟨rfl, hr, hm⟩
  · rw [hslot, hparent, hlast, hentry]
    simp only [Slot.node?, demanded]
    cases hf : Entries.find? es name with
    | none =>
      simp only [Option.map_none, allows_mode]
      by_cases h : s.allows Access.write.flag
      · simp only [h, if_true, Except.map, filled, Slot.node?, hf]
        exact ⟨rfl, hr, depicts_placed hm hw hf (.newFile now data) (fun _ _ => rfl) now⟩
      · simp only [h, Bool.false_eq_true, if_false, Except.map]
        exact ⟨rfl, hr, hm⟩
    | some child =>
      cases child with
      | directory s' es' => exact ⟨rfl, hr, hm⟩
      | file s' data' =>
        simp only [Option.map_some, Node.toEntry, allows_mode]
        by_cases h : s'.allows Access.write.flag
        · simp only [h, if_true, Except.map, filled, Slot.node?, hf, Slot.path, ← hsplit]
          exact ⟨rfl, hr, depicts_setData hm _ now p⟩
        · simp only [h, Bool.false_eq_true, if_false, Except.map]
          exact ⟨rfl, hr, hm⟩

theorem matches_write (hm : m.Depicts v.root) (hr : v.released = false)
    (hp : Path.parse? spelling = some p) (mode : WriteMode) (content : Content) (now : Int) :
    Matches (outcome (Operation.perform now (.write mode spelling content)) v)
      (m.perform (.write mode p content)) := by
  rw [Operation.perform, PathMap.perform]
  cases content with
  | octets data => exact matches_writeFile hm hr hp mode data now
  | text t =>
    rw [outcome_silent, writeContent, outcome_writeText, octets?]
    cases Utf8.encodeText? t with
    | none => exact ⟨rfl, hr, hm⟩
    | some data =>
      rw [← outcome_silent]
      exact matches_writeFile hm hr hp mode data now

theorem matches_copyFile (hm : m.Depicts v.root) (hr : v.released = false)
    (hp : Path.parse? spelling = some p) {destination : Text} {q : Path}
    (hq : Path.parse? destination = some q) (now : Int) :
    Matches (outcome (Operation.perform now (.copyFile spelling destination)) v)
      (m.perform (.copyFile p q)) := by
  rw [Operation.perform, outcome_silent, outcome_copyFile, PathMap.perform]
  rcases fileData_cases hm hr hp with ⟨e, t, hv, hmap⟩ | ⟨data, hv, hmap⟩
  · rw [hv, hmap]
    exact ⟨rfl, hr, hm⟩
  · rw [hv, hmap]
    simp only
    rw [← outcome_silent]
    exact matches_writeFile hm hr hq .replace data now

theorem matches_makeDirectory (hm : m.Depicts v.root) (hr : v.released = false)
    (hp : Path.parse? spelling = some p) (now : Int) :
    Matches (outcome (Operation.perform now (.makeDirectory spelling false)) v)
      (m.perform (.makeDirectory p false)) := by
  rw [Operation.perform, outcome_silent, outcome_makeDirectory, PathMap.perform,
    PathMap.makeDirectory]
  rcases slot_cases hm hr hp with ⟨e, t, hslot, hparent⟩ |
    ⟨s, es, name, hslot, hparent, hlast, hsplit, hw, hentry⟩
  · rw [hslot, hparent]
    exact ⟨rfl, hr, hm⟩
  · rw [hslot, hparent, hlast, hentry]
    simp only [Slot.node?, demanded]
    cases hf : Entries.find? es name with
    | some child => exact ⟨rfl, hr, hm⟩
    | none =>
      simp only [Option.map_none, Option.isSome_none, allows_mode, Bool.false_eq_true, if_false]
      by_cases h : s.allows Access.write.flag
      · simp only [h, if_true, Except.map]
        exact ⟨rfl, hr, depicts_placed hm hw hf (.newDirectory now) (fun _ _ => rfl) now⟩
      · simp only [h, Bool.false_eq_true, if_false, Except.map]
        exact ⟨rfl, hr, hm⟩

theorem makeBelow_cases (now : Int) (spelling : Text) {above : Path} (rest : Path)
    (hm : m.Depicts v.root) (hd : m.isDirectory above = true) :
    (m.isBlocked (above ++ rest) = true ∧
      outcome (makeBelow now spelling above rest) v = (.error (.file .notDirectory spelling), v)) ∨
    (m.isBlocked (above ++ rest) = false ∧
      ∃ w, outcome (makeBelow now spelling above rest) v = (.ok (), w) ∧
        w.released = v.released ∧ (m.withDirectories (above ++ rest)).Depicts w.root) := by
  -- the map changes along with the volume, so both are generalized
  induction rest generalizing above v m with
  | nil =>
    obtain ⟨s, es, hw⟩ := hm.exists_directory hd
    rw [List.append_nil]
    have hopen : m.isBlocked above = false := by simp [hm.isBlocked, hw, Node.isDirectory]
    exact .inr ⟨hopen, v, rfl, rfl, by rwa [withDirectories_of_isDirectory hd hopen]⟩
  | cons name rest ih =>
    obtain ⟨s, es, hw⟩ := hm.exists_directory hd
    rw [outcome_makeBelow_cons, List.append_cons, Node.at?_name hw]
    have hthere : m.entry (above ++ [name]) = (Entries.find? es name).map Node.toEntry := by
      rw [hm, Node.entry, Node.at?_name hw]
    cases hf : Entries.find? es name with
    | none =>
      rw [hf, Option.map_none] at hthere
      have hopen : m.isBlocked (above ++ [name] ++ rest) = false := by
        have hmissing : v.root.walk (above ++ [name]) = .error .noEntry := by
          rw [Node.walk_append_ok hw, Node.walk_directory_cons, hf]
        rw [hm.isBlocked, Node.walk_append_error hmissing]
        rfl
      have hput := depicts_placed hm hw hf (.newDirectory now) (fun _ _ => rfl) now
      have hnew := entry_put hd hthere (.directory Stamp.directoryMode) (above ++ [name])
      rw [if_pos rfl] at hnew
      rcases ih hput ((isDirectory_iff _ _).mpr ⟨_, hnew⟩) with
        ⟨hblocked, -⟩ | ⟨-, w, hrun, hrel, hmap⟩
      · rw [Node.newDirectory, Node.toEntry, isBlocked_put hd hthere, hopen] at hblocked
        cases hblocked
      · refine .inr ⟨hopen, w, hrun, hrel, ?_⟩
        rwa [Node.newDirectory, Node.toEntry, Stamp.fresh,
          withDirectories_put hd hthere (List.prefix_append _ rest) hopen] at hmap
    | some child =>
      have hw' := Node.at?_eq_some.mp ((Node.at?_name hw name).trans hf)
      rw [hf, Option.map_some] at hthere
      cases child with
      | file s' data =>
        refine .inl ⟨?_, rfl⟩
        rw [hm.isBlocked, Node.walk_append_ok hw']
        cases rest <;> simp [Node.walk_file_cons, Node.isDirectory]
      | directory s' es' => exact ih hm ((m.isDirectory_iff _).mpr ⟨_, hthere⟩)

theorem matches_makeDirectories (hm : m.Depicts v.root) (hr : v.released = false)
    (hp : Path.parse? spelling = some p) (now : Int) :
    Matches (outcome (Operation.perform now (.makeDirectory spelling true)) v)
      (m.perform (.makeDirectory p true)) := by
  have hroot : m.isDirectory [] = true := (m.isDirectory_iff []).mpr m.root
  rw [Operation.perform, outcome_silent, outcome_makeDirectories, hr, if_neg Bool.false_ne_true,
    PathMap.perform]
  simp only [hp]
  have hcases := makeBelow_cases now spelling p hm hroot
  rw [List.nil_append] at hcases
  rcases hcases with ⟨hblocked, hrun⟩ | ⟨hopen, w, hrun, hrel, hmap⟩
  · rw [hrun, if_pos hblocked]
    exact ⟨rfl, hr, hm⟩
  · rw [hrun, if_neg (by simpa using hopen)]
    exact ⟨rfl, hrel.trans hr, hmap⟩

theorem matches_remove (hm : m.Depicts v.root) (hr : v.released = false)
    (hp : Path.parse? spelling = some p) (recursive force : Bool) (now : Int) :
    Matches (outcome (Operation.perform now (.remove spelling recursive force)) v)
      (m.perform (.remove p recursive force)) := by
  rw [Operation.perform, outcome_silent, outcome_remove, occupied, PathMap.perform, PathMap.remove]
  rcases slot_cases hm hr hp with ⟨e, t, hslot, hparent⟩ |
    ⟨s, es, name, hslot, hparent, hlast, hsplit, hw, hentry⟩
  · rw [hslot, hparent]
    cases e with
    | noEntry => cases force <;> exact ⟨rfl, hr, hm⟩
    | _ => exact ⟨rfl, hr, hm⟩
  · rw [hslot, hparent, hentry]
    simp only [Slot.node?]
    have hgone : (m.without p).Depicts (v.emptied now p.dropLast name).root := by
      have h := depicts_emptied hm hw name now
      rwa [← hsplit] at h
    cases hf : Entries.find? es name with
    | none => cases force <;> exact ⟨rfl, hr, hm⟩
    | some child =>
      cases child with
      | file s' data => exact ⟨rfl, hr, hgone⟩
      | directory s' es' =>
        cases recursive with
        | true => exact ⟨rfl, hr, hgone⟩
        | false => exact ⟨rfl, hr, hm⟩

theorem matches_setTimes (hm : m.Depicts v.root) (hr : v.released = false)
    (hp : Path.parse? spelling = some p) (mtime : Json) (now : Int) :
    Matches (outcome (Operation.perform now (.setTimes spelling mtime)) v)
      (m.perform (.setTimes p)) := by
  rw [Operation.perform, outcome_silent, outcome_setTimes, find_of_parse? hr hp, hp,
    PathMap.perform, hm.find]
  cases v.root.walk p with
  | error e => exact ⟨rfl, hr, hm⟩
  | ok child => exact ⟨rfl, hr, depicts_setTime hm mtime p⟩

theorem matches_setMode (hm : m.Depicts v.root) (hr : v.released = false)
    (hp : Path.parse? spelling = some p) (mode now : Int) :
    Matches (outcome (Operation.perform now (.setMode spelling mode)) v)
      (m.perform (.setMode p mode)) := by
  rw [Operation.perform, outcome_silent, outcome_setMode, find_of_parse? hr hp, hp,
    PathMap.perform, hm.find]
  cases v.root.walk p with
  | error e => exact ⟨rfl, hr, hm⟩
  | ok child => exact ⟨rfl, hr, depicts_setMode hm _ p⟩

theorem matches_perform (hm : m.Depicts v.root) (ho : v.root.Everywhere Node.InOrder)
    (hr : v.released = false) {op : Operation} {fop : FlatOperation}
    (hop : op.located? = some fop) (now : Int) :
    Matches (outcome (op.perform now) v) (m.perform fop) := by
  cases op with
  | copyFile source destination =>
    simp only [Operation.located?] at hop
    split at hop
    · rename_i p q hp hq
      obtain rfl := Option.some.inj hop
      exact matches_copyFile hm hr hp hq now
    · cases hop
  | «exists» s =>
    obtain ⟨p, hp, rfl⟩ := Option.map_eq_some_iff.mp hop
    exact matches_exists hm hr hp now
  | stat s =>
    obtain ⟨p, hp, rfl⟩ := Option.map_eq_some_iff.mp hop
    exact matches_stat hm hr hp now
  | access s request =>
    obtain ⟨p, hp, rfl⟩ := Option.map_eq_some_iff.mp hop
    exact matches_access hm hr hp request now
  | readDirectory s =>
    obtain ⟨p, hp, rfl⟩ := Option.map_eq_some_iff.mp hop
    exact matches_readDirectory hm ho hr hp now
  | read s encoding =>
    obtain ⟨p, hp, rfl⟩ := Option.map_eq_some_iff.mp hop
    exact matches_read hm hr hp encoding now
  | write mode s content =>
    obtain ⟨p, hp, rfl⟩ := Option.map_eq_some_iff.mp hop
    exact matches_write hm hr hp mode content now
  | makeDirectory s recursive =>
    obtain ⟨p, hp, rfl⟩ := Option.map_eq_some_iff.mp hop
    cases recursive with
    | false => exact matches_makeDirectory hm hr hp now
    | true => exact matches_makeDirectories hm hr hp now
  | remove s recursive force =>
    obtain ⟨p, hp, rfl⟩ := Option.map_eq_some_iff.mp hop
    exact matches_remove hm hr hp recursive force now
  | setTimes s mtime =>
    obtain ⟨p, hp, rfl⟩ := Option.map_eq_some_iff.mp hop
    exact matches_setTimes hm hr hp mtime now
  | setMode s mode =>
    obtain ⟨p, hp, rfl⟩ := Option.map_eq_some_iff.mp hop
    exact matches_setMode hm hr hp mode now

end Volume

end MemoryShell
