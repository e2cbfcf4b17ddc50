import MemoryShell.Proofs.Volume.Loading

set_option autoImplicit false

namespace MemoryShell

def valueErrors : List String :=
  ["ValueError", "JSONDecodeError", "UnicodeDecodeError", "UnicodeEncodeError"]

namespace PathMap

/-- A map has files at the paths of one set, directories at those of another, all of them made anew,
and nothing else. -/
structure Laid (m : PathMap) (files directories : Path → Prop) : Prop where
  file : ∀ {q}, files q → ∃ data, m.entry q = some (.file Stamp.fileMode data)
  directory : ∀ {q}, directories q → m.entry q = some (.directory Stamp.directoryMode)
  missing : ∀ {q}, ¬ files q → ¬ directories q → m.entry q = none

variable {m : PathMap} {files directories : Path → Prop} {p : Path}

theorem Laid.congr (h : m.Laid files directories) {files' directories' : Path → Prop}
    (hf : ∀ q, files q ↔ files' q) (hd : ∀ q, directories q ↔ directories' q) :
    m.Laid files' directories' where
  file hq := h.file ((hf _).mpr hq)
  directory hq := h.directory ((hd _).mpr hq)
  missing hq hq' := h.missing (fun hfile => hq ((hf _).mp hfile)) fun hdir => hq' ((hd _).mp hdir)

theorem Laid.isFile_iff (h : m.Laid files directories) (q : Path) :
    m.isFile q = true ↔ files q := by
  constructor
  · intro hfile
    by_contra hnot
    unfold isFile at hfile
    by_cases hd : directories q
    · rw [h.directory hd] at hfile
      cases hfile
    · rw [h.missing hnot hd] at hfile
      cases hfile
  · intro hf
    obtain ⟨data, hdata⟩ := h.file hf
    rw [isFile, hdata]

theorem Laid.isBlocked_iff (h : m.Laid files directories) (p : Path) :
    m.isBlocked p = true ↔ ∃ q, files q ∧ q <+: p := by
  rw [isBlocked, List.any_eq_true]
  constructor
  · rintro ⟨q, hq, hfile⟩
    exact ⟨q, (h.isFile_iff q).mp hfile, (List.mem_inits q p).mp hq⟩
  · rintro ⟨q, hfile, hq⟩
    exact ⟨q, (List.mem_inits q p).mpr hq, (h.isFile_iff q).mpr hfile⟩

theorem Laid.withDirectories (h : m.Laid files directories) (hopen : m.isBlocked p = false) :
    (m.withDirectories p).Laid files fun q => directories q ∨ q <+: p := by
  have hclear : ∀ q, files q → ¬ q <+: p := by
    intro q hf hq
    have hblocked := (h.isBlocked_iff p).mpr ⟨q, hf, hq⟩
    rw [hopen] at hblocked
    cases hblocked
  refine ⟨fun {q} hf => ?_, fun {q} hq => ?_, fun {q} hf hq => ?_⟩
  · obtain ⟨data, hdata⟩ := h.file hf
    refine ⟨data, ?_⟩
    rw [entry_withDirectories hopen, if_neg fun hnew => hclear q hf hnew.1, hdata]
  · rw [entry_withDirectories hopen]
    by_cases hd : directories q
    · rw [h.directory hd]
      simp
    · have hpre : q <+: p := hq.resolve_left hd
      have hfree : m.entry q = none := h.missing (fun hf => hclear q hf hpre) hd
      rw [if_pos ⟨hpre, hfree⟩]
  · obtain ⟨hd, hpre⟩ := not_or.mp hq
    rw [entry_withDirectories hopen, if_neg fun hnew => hpre hnew.1, h.missing hf hd]

theorem Laid.not_prefix (h : m.Laid files directories) (hd : directories p) {q : Path}
    (hf : files q) : ¬ q <+: p := by
  intro hq
  have hdir : m.isDirectory p = true := (m.isDirectory_iff p).mpr ⟨_, h.directory hd⟩
  obtain ⟨mode, hmode⟩ := m.exists_directory_of_prefix hdir hq
  obtain ⟨data, hdata⟩ := h.file hf
  rw [hmode] at hdata
  cases hdata

theorem Laid.parent (h : m.Laid files directories) (hne : p ≠ [])
    (hd : directories p.dropLast) : m.parent p = .ok Stamp.directoryMode := by
  rw [PathMap.parent, if_neg hne, find, h.directory hd]

theorem Laid.placed (h : m.Laid files directories) {m' : PathMap} (data : Bytes)
    (hfree : ¬ directories p) (hentry : ∀ q, m'.entry q =
      if q = p then some (.file Stamp.fileMode data) else m.entry q) :
    m'.Laid (fun q => files q ∨ q = p) directories := by
  refine ⟨fun {q} hq => ?_, fun {q} hq => ?_, fun {q} hq hq' => ?_⟩
  · by_cases heq : q = p
    · exact ⟨data, by rw [hentry, if_pos heq]⟩
    · rw [hentry, if_neg heq]
      exact h.file (hq.resolve_right heq)
  · have hne : q ≠ p := fun heq => hfree (heq ▸ hq)
    rw [hentry, if_neg hne, h.directory hq]
  · obtain ⟨hf, hne⟩ := not_or.mp hq
    rw [hentry, if_neg hne, h.missing hf hq']

theorem Laid.write (h : m.Laid files directories) (hne : p ≠ []) (hd : directories p.dropLast)
    (hfree : ¬ directories p) (data : Bytes) :
    ∃ m' : PathMap, m.write .replace p data = (.ok .nothing, m') ∧
      m'.Laid (fun q => files q ∨ q = p) directories := by
  obtain ⟨name, hlast⟩ : ∃ name, p.getLast? = some name :=
    ⟨p.getLast hne, List.getLast?_eq_some_getLast hne⟩
  have hsplit : p.dropLast ++ [name] = p := List.dropLast_append_getLast? name hlast
  rw [PathMap.write, h.parent hne hd, hlast]
  by_cases hf : files p
  · obtain ⟨old, hold⟩ := h.file hf
    have hallowed : allows Stamp.fileMode Access.write.flag = true := by decide
    rw [hold]
    simp only [hallowed, if_true]
    refine ⟨_, rfl, h.placed data hfree fun q => ?_⟩
    rw [entry_alter]
    by_cases heq : q = p
    · rw [if_pos heq, if_pos heq, heq, hold]
      rfl
    · rw [if_neg heq, if_neg heq]
  · have hnone : m.entry (p.dropLast ++ [name]) = none := by
      rw [hsplit, h.missing hf hfree]
    have habove : m.isDirectory p.dropLast = true :=
      (m.isDirectory_iff _).mpr ⟨_, h.directory hd⟩
    have hallowed : allows Stamp.directoryMode Access.write.flag = true := by decide
    rw [h.missing hf hfree]
    simp only [hallowed, if_true]
    refine ⟨_, rfl, h.placed data hfree fun q => ?_⟩
    rw [entry_put habove hnone, hsplit]

end PathMap

namespace Volume

open PathMap

/-- An open volume with files and directories, made anew, at the paths of two sets. -/
def IsLaid (v : Volume) (files directories : Path → Prop) : Prop :=
  v.released = false ∧ ∃ m : PathMap, m.Depicts v.root ∧ m.Laid files directories

variable {v : Volume} {files directories : Path → Prop} {p : Path} {spelling : Text}

theorem IsLaid.congr (h : v.IsLaid files directories) {files' directories' : Path → Prop}
    (hf : ∀ q, files q ↔ files' q) (hd : ∀ q, directories q ↔ directories' q) :
    v.IsLaid files' directories' := by
  obtain ⟨hr, m, hm, hlaid⟩ := h
  exact ⟨hr, m, hm, hlaid.congr hf hd⟩

theorem IsLaid.not_prefix (h : v.IsLaid files directories) (hd : directories p) {q : Path}
    (hf : files q) : ¬ q <+: p := by
  obtain ⟨-, m, -, hlaid⟩ := h
  exact hlaid.not_prefix hd hf

theorem IsLaid.makeDirectories (h : v.IsLaid files directories)
    (hp : Path.parse? spelling = some p) (hclear : ∀ q, files q → ¬ q <+: p) (now : Int) :
    ∃ w, outcome (makeDirectories now spelling) v = (.ok (), w) ∧
      w.IsLaid files fun q => directories q ∨ q <+: p := by
  obtain ⟨hr, m, hm, hlaid⟩ := h
  have hopen : m.isBlocked p = false := by
    rw [Bool.eq_false_iff]
    intro hblocked
    obtain ⟨q, hf, hq⟩ := (hlaid.isBlocked_iff p).mp hblocked
    exact hclear q hf hq
  have hmatches := matches_makeDirectories hm hr hp now
  rw [PathMap.perform, if_neg (by simpa using hopen)] at hmatches
  obtain ⟨w, hw, hr', hm'⟩ := hmatches.ran
  exact ⟨w, hw, hr', _, hm', hlaid.withDirectories hopen⟩

theorem IsLaid.makeDirectories_blocked (h : v.IsLaid files directories)
    (hp : Path.parse? spelling = some p) {q : Path} (hf : files q) (hq : q <+: p) (now : Int) :
    outcome (Volume.makeDirectories now spelling) v =
      (.error (.file .notDirectory spelling), v) := by
  obtain ⟨hr, m, hm, hlaid⟩ := h
  have hblocked : m.isBlocked p = true := (hlaid.isBlocked_iff p).mpr ⟨q, hf, hq⟩
  have hroot : m.isDirectory [] = true := (m.isDirectory_iff []).mpr m.root
  rw [outcome_makeDirectories, hr, if_neg Bool.false_ne_true]
  simp only [hp]
  rcases makeBelow_cases now spelling p hm hroot with ⟨-, hrun⟩ | ⟨hopen, -⟩
  · exact hrun
  · rw [List.nil_append, hblocked] at hopen
    cases hopen

theorem IsLaid.writeFile (h : v.IsLaid files directories) (hp : Path.parse? spelling = some p)
    (hne : p ≠ []) (hd : directories p.dropLast) (hfree : ¬ directories p) (data : Bytes)
    (now : Int) :
    ∃ w, outcome (writeFile now .replace spelling data) v = (.ok (), w) ∧
      w.IsLaid (fun q => files q ∨ q = p) directories := by
  obtain ⟨hr, m, hm, hlaid⟩ := h
  obtain ⟨m', hwrite, hlaid'⟩ := hlaid.write hne hd hfree data
  have hmatches := matches_writeFile hm hr hp .replace data now
  rw [hwrite] at hmatches
  obtain ⟨w, hw, hr', hm'⟩ := hmatches.ran
  exact ⟨w, hw, hr', m', hm', hlaid'⟩

theorem IsLaid.writeFile_taken (h : v.IsLaid files directories)
    (hp : Path.parse? spelling = some p) (hne : p ≠ []) (habove : directories p.dropLast)
    (hd : directories p) (data : Bytes) (now : Int) :
    outcome (Volume.writeFile now .replace spelling data) v =
      (.error (.file .isDirectory spelling), v) := by
  obtain ⟨hr, m, hm, hlaid⟩ := h
  rw [outcome_writeFile, writable]
  rcases slot_cases hm hr hp with ⟨e, t, -, hparent⟩ |
    ⟨s, es, name, hslot, -, -, -, -, hentry⟩
  · rw [hlaid.parent hne habove] at hparent
    cases hparent
  · rw [hlaid.directory hd] at hentry
    obtain ⟨child, hchild, hnode⟩ := Option.map_eq_some_iff.mp hentry.symm
    simp only [hslot, Slot.node?, hchild]
    cases child with
    | file s' data' => cases hnode
    | directory s' es' => rfl

theorem outcome_writeFile_root (hp : Path.parse? spelling = some []) (now : Int)
    (mode : WriteMode) (data : Bytes) (v : Volume) :
    outcome (Volume.writeFile now mode spelling data) v =
      (.error (.file .notPermitted spelling), v) := by
  have hslot : v.slot spelling = .error (.file .notPermitted spelling) := by
    rw [slot, hp]
    rfl
  rw [outcome_writeFile, writable, hslot]

end Volume

namespace Snapshot

open Volume

/-- Whether a failure is one of a value. -/
def Error.IsValueError (e : Error) : Prop :=
  e.label ∈ valueErrors

theorem isValueError_of_label {e : Error} (h : e.label = "ValueError") : e.IsValueError := by
  rw [Error.IsValueError, h]
  exact List.mem_cons_self

/-- A field of a snapshot has a file made at a path. -/
def PutsFile : Text × Json → Path → Prop
  | (key, .string _), q => Path.parse? key = some q
  | _, _ => False

/-- A field of a snapshot has a directory made at a path: its own if it is one, or above it. -/
def PutsDirectory : Text × Json → Path → Prop
  | (key, .null), q => ∃ p, Path.parse? key = some p ∧ q <+: p
  | (key, .string _), q => ∃ p, Path.parse? key = some p ∧ q <+: p.dropLast
  | _, _ => False

/-- There is a file at a path after some fields. -/
def HasFile (fields : List (Text × Json)) (q : Path) : Prop :=
  ∃ field ∈ fields, PutsFile field q

/-- There is a directory at a path after some fields. The root is there before the first. -/
def HasDirectory (fields : List (Text × Json)) (q : Path) : Prop :=
  q = [] ∨ ∃ field ∈ fields, PutsDirectory field q

/-- A field cannot be made after others: with the cause, and the spelling at which it shows. -/
inductive Clash (before : List (Text × Json)) (key : Text) : Json → Errno → Text → Prop
  /-- A directory at a file or below it. -/
  | directoryBelow {p q : Path} (hp : Path.parse? key = some p) (hq : HasFile before q)
      (hpre : q <+: p) : Clash before key .null .notDirectory key
  /-- A file below a file. -/
  | fileBelow {p q : Path} {t : Text} (hp : Path.parse? key = some p) (hq : HasFile before q)
      (hpre : q <+: p.dropLast) : Clash before key (.string t) .notDirectory (Path.text p.dropLast)
  /-- A file at the root. -/
  | fileAtRoot {t : Text} {data : Bytes} (hp : Path.parse? key = some [])
      (ht : Utf8.encodeText? t = some data) : Clash before key (.string t) .notPermitted key
  /-- A file where a directory is. -/
  | fileAtDirectory {p : Path} {t : Text} {data : Bytes} (hp : Path.parse? key = some p)
      (hne : p ≠ []) (ht : Utf8.encodeText? t = some data) (hd : HasDirectory before p) :
      Clash before key (.string t) .isDirectory key

theorem Clash.not_isValueError {before : List (Text × Json)} {key named : Text} {content : Json}
    {errno : Errno} (h : Clash before key content errno named) :
    ¬ (Error.volume (.file errno named)).IsValueError := by
  show errno.label ∉ valueErrors
  cases h <;> decide

/-- The first field that cannot be made after those before it, all of which can. -/
def FirstClash (now : Int) (fields : List (Text × Json)) (errno : Errno) (named : Text) : Prop :=
  ∃ before key content after, fields = before ++ (key, content) :: after ∧
    (∃ v, toVolume now (.object before) = .ok v) ∧ Clash before key content errno named

variable {before : List (Text × Json)} {key : Text} {content : Json} {v : Volume}

theorem hasFile_append_singleton (q : Path) :
    HasFile (before ++ [(key, content)]) q ↔ HasFile before q ∨ PutsFile (key, content) q := by
  simp only [HasFile, List.mem_append, List.mem_singleton, or_and_right, exists_or,
    exists_eq_left]

theorem hasDirectory_append_singleton (q : Path) :
    HasDirectory (before ++ [(key, content)]) q ↔
      HasDirectory before q ∨ PutsDirectory (key, content) q := by
  simp only [HasDirectory, List.mem_append, List.mem_singleton, or_and_right, exists_or,
    exists_eq_left, or_assoc]

/-- A volume as it is after some fields have been made. -/
abbrev Loaded (fields : List (Text × Json)) (v : Volume) : Prop :=
  v.IsLaid (HasFile fields) (HasDirectory fields)

theorem loaded_empty (now : Int) : Loaded [] (Volume.empty now) := by
  have hroot : (Volume.empty now).root.isDirectory = true := rfl
  refine ⟨rfl, (Volume.empty now).root.pathMap hroot, Node.depicts_pathMap _ hroot,
    fun {q} hq => ?_, fun {q} hq => ?_, fun {q} _ hq => ?_⟩
  · obtain ⟨field, hfield, -⟩ := hq
    cases hfield
  · obtain rfl : q = [] := by simpa [HasDirectory] using hq
    rfl
  · obtain ⟨name, r, rfl⟩ := List.exists_cons_of_ne_nil fun h => hq (.inl h)
    show (Node.directory (.fresh Stamp.directoryMode now) []).entry (name :: r) = none
    rw [Node.entry_directory_cons]
    rfl

theorem loadEntry_of_clash (h : Loaded before v) {errno : Errno} {named : Text}
    (hclash : Clash before key content errno named) (now : Int) :
    (outcome (loadEntry now key content) v).1 = .error (.volume (.file errno named)) := by
  cases hclash with
  | directoryBelow hp hq hpre =>
    simp only [loadEntry, hp, outcome_adapt, h.makeDirectories_blocked hp hq hpre now,
      mapError_error]
  | @fileBelow p q t hp hq hpre =>
    have hrun := h.makeDirectories_blocked (Path.parse?_text p.dropLast) hq hpre now
    simp only [loadEntry, hp, outcome_adapt, outcome_bind_error hrun, mapError_error]
  | @fileAtRoot t data hp ht =>
    have hclear : ∀ q, HasFile before q → ¬ q <+: ([] : Path) := fun q => h.not_prefix (.inl rfl)
    obtain ⟨w, hw, -⟩ := h.makeDirectories (Path.parse?_text []) hclear now
    simp only [loadEntry, hp, outcome_adapt, List.dropLast_nil, outcome_bind_ok hw,
      outcome_writeText, ht, outcome_writeFile_root hp, mapError_error]
  | @fileAtDirectory p t data hp hne ht hd =>
    have hclear : ∀ q, HasFile before q → ¬ q <+: p.dropLast := by
      intro q hq hpre
      exact h.not_prefix hd hq (hpre.trans (List.dropLast_prefix p))
    obtain ⟨w, hw, hlaid⟩ := h.makeDirectories (Path.parse?_text _) hclear now
    have hrun := hlaid.writeFile_taken hp hne (.inr (List.prefix_refl _)) (.inl hd) data now
    simp only [loadEntry, hp, outcome_adapt, outcome_bind_ok hw, outcome_writeText, ht, hrun,
      mapError_error]

theorem loadEntry_of_no_clash (h : Loaded before v)
    (hno : ∀ errno named, ¬ Clash before key content errno named) (now : Int) :
    (∃ e : Error, e.IsValueError ∧ (outcome (loadEntry now key content) v).1 = .error e) ∨
      ∃ w, outcome (loadEntry now key content) v = (.ok (), w) ∧
        Loaded (before ++ [(key, content)]) w := by
  cases hp : Path.parse? key with
  | none =>
    refine .inl ⟨.badPath key, isValueError_of_label rfl, ?_⟩
    simp only [loadEntry, hp, outcome_throw]
  | some p =>
    cases content with
    | null =>
      have hclear : ∀ q, HasFile before q → ¬ q <+: p := fun q hq hpre =>
        hno _ _ (.directoryBelow hp hq hpre)
      obtain ⟨w, hw, hlaid⟩ := h.makeDirectories hp hclear now
      refine .inr ⟨w, ?_, hlaid.congr (fun q => ?_) fun q => ?_⟩
      · simp only [loadEntry, hp, outcome_adapt, hw, mapError_ok]
      · rw [hasFile_append_singleton]
        simp [PutsFile]
      · rw [hasDirectory_append_singleton]
        simp [PutsDirectory, hp]
    | string t =>
      have hclear : ∀ q, HasFile before q → ¬ q <+: p.dropLast := fun q hq hpre =>
        hno _ _ (.fileBelow hp hq hpre)
      obtain ⟨w, hw, hlaid⟩ := h.makeDirectories (Path.parse?_text _) hclear now
      cases ht : Utf8.encodeText? t with
      | none =>
        have hvalue : (Error.volume .unencodable).IsValueError := by
          show "UnicodeEncodeError" ∈ valueErrors
          decide
        refine .inl ⟨.volume .unencodable, hvalue, ?_⟩
        simp only [loadEntry, hp, outcome_adapt, outcome_bind_ok hw, outcome_writeText, ht,
          mapError_error]
      | some data =>
        have hne : p ≠ [] := by
          rintro rfl
          exact hno _ _ (.fileAtRoot hp ht)
        have hfree : ¬ (HasDirectory before p ∨ p <+: p.dropLast) := by
          rintro (hd | hpre)
          · exact hno _ _ (.fileAtDirectory hp hne ht hd)
          · exact not_prefix_dropLast hne hpre
        obtain ⟨u, hu, hlaid'⟩ :=
          hlaid.writeFile hp hne (.inr (List.prefix_refl _)) hfree data now
        refine .inr ⟨u, ?_, hlaid'.congr (fun q => ?_) fun q => ?_⟩
        · simp only [loadEntry, hp, outcome_adapt, outcome_bind_ok hw, outcome_writeText, ht, hu,
            mapError_ok]
        · rw [hasFile_append_singleton]
          simp [PutsFile, hp, eq_comm]
        · rw [hasDirectory_append_singleton]
          simp [PutsDirectory, hp]
    | _ =>
      refine .inl ⟨.badContent key, isValueError_of_label rfl, ?_⟩
      simp only [loadEntry, hp, outcome_throw]

theorem outcome_loadEntries_append (now : Int) (first second : List (Text × Json)) (v : Volume) :
    outcome (loadEntries now (first ++ second)) v =
      match outcome (loadEntries now first) v with
      | (.ok (), w) => outcome (loadEntries now second) w
      | (.error e, w) => (.error e, w) := by
  induction first generalizing v with
  | nil => rfl
  | cons field first ih =>
    obtain ⟨key, content⟩ := field
    rw [List.cons_append, loadEntries, loadEntries, outcome_bind, outcome_bind]
    rcases outcome (loadEntry now key content) v with ⟨e | u, w⟩
    · rfl
    · exact ih w

theorem loadEntries_cases (now : Int) (fields : List (Text × Json)) (h : Loaded before v) :
    (∃ w, outcome (loadEntries now fields) v = (.ok (), w) ∧ Loaded (before ++ fields) w) ∨
      (∃ e : Error, e.IsValueError ∧ (outcome (loadEntries now fields) v).1 = .error e) ∨
      ∃ done key content after errno named, fields = done ++ (key, content) :: after ∧
        (outcome (loadEntries now done) v).1 = .ok () ∧
        Clash (before ++ done) key content errno named ∧
        (outcome (loadEntries now fields) v).1 = .error (.volume (.file errno named)) := by
  -- the fields that have been made grow at their end
  induction fields generalizing before v with
  | nil => exact .inl ⟨v, rfl, by rwa [List.append_nil]⟩
  | cons field fields ih =>
    obtain ⟨key, content⟩ := field
    rw [loadEntries]
    by_cases hclash : ∃ errno named, Clash before key content errno named
    · obtain ⟨errno, named, hclash⟩ := hclash
      have hentry := loadEntry_of_clash h hclash now
      refine .inr (.inr ⟨[], key, content, fields, errno, named, rfl, rfl, ?_, ?_⟩)
      · rwa [List.append_nil]
      · exact fst_outcome_bind_error hentry _
    · have hno : ∀ errno named, ¬ Clash before key content errno named :=
        fun errno named hc => hclash ⟨errno, named, hc⟩
      rcases loadEntry_of_no_clash h hno now with ⟨e, he, hentry⟩ | ⟨w, hw, hlaid⟩
      · exact .inr (.inl ⟨e, he, fst_outcome_bind_error hentry _⟩)
      · rw [outcome_bind_ok hw]
        have hsplit : before ++ (key, content) :: fields = before ++ [(key, content)] ++ fields := by
          simp
        rcases ih hlaid with hall | hvalue | ⟨done, key', content', after, errno, named, rfl, hdone,
          hclash', hrun⟩
        · rw [hsplit]
          exact .inl hall
        · exact .inr (.inl hvalue)
        · refine .inr (.inr ⟨(key, content) :: done, key', content', after, errno, named, rfl,
            ?_, ?_, hrun⟩)
          · rw [loadEntries, outcome_bind_ok hw, hdone]
          · simpa using hclash'

theorem toVolume_object_eq_error_iff {now : Int} {fields : List (Text × Json)} {e : Error} :
    toVolume now (.object fields) = .error e ↔
      (outcome (loadEntries now fields) (Volume.empty now)).1 = .error e := by
  rw [toVolume_object]
  rcases outcome (loadEntries now fields) (Volume.empty now) with ⟨r, w⟩
  cases r <;> simp

theorem toVolume_object_eq_ok_iff {now : Int} {fields : List (Text × Json)} {w : Volume} :
    toVolume now (.object fields) = .ok w ↔
      outcome (loadEntries now fields) (Volume.empty now) = (.ok (), w) := by
  rw [toVolume_object]
  rcases outcome (loadEntries now fields) (Volume.empty now) with ⟨r, w⟩
  cases r <;> simp

theorem loaded_of_toVolume {now : Int} {fields : List (Text × Json)} {w : Volume}
    (h : toVolume now (.object fields) = .ok w) : Loaded fields w := by
  have hrun := toVolume_object_eq_ok_iff.mp h
  rcases loadEntries_cases now fields (loaded_empty now) with ⟨w', hw', hlaid⟩ | ⟨e, -, herror⟩ |
    ⟨_, _, _, _, _, _, -, -, -, herror⟩
  · rw [hrun] at hw'
    obtain ⟨-, rfl⟩ := Prod.mk.inj hw'
    exact hlaid
  · rw [hrun] at herror
    cases herror
  · rw [hrun] at herror
    cases herror

theorem FirstClash.toVolume {now : Int} {fields : List (Text × Json)} {errno : Errno}
    {named : Text} (h : FirstClash now fields errno named) :
    Snapshot.toVolume now (.object fields) = .error (.volume (.file errno named)) := by
  obtain ⟨before, key, content, after, rfl, ⟨w, hw⟩, hclash⟩ := h
  have hrun := toVolume_object_eq_ok_iff.mp hw
  have hentry := loadEntry_of_clash (loaded_of_toVolume hw) hclash now
  rw [toVolume_object_eq_error_iff, outcome_loadEntries_append, hrun]
  exact fst_outcome_bind_error hentry _

theorem toVolume_eq_error_iff (now : Int) (json : Json) (e : Error) :
    toVolume now json = .error e ∧ ¬ e.IsValueError ↔
      ∃ fields errno named, json = .object fields ∧ FirstClash now fields errno named ∧
        e = .volume (.file errno named) := by
  constructor
  · rintro ⟨hload, hvalue⟩
    cases json with
    | object fields =>
      have hrun := toVolume_object_eq_error_iff.mp hload
      rcases loadEntries_cases now fields (loaded_empty now) with ⟨w, hw, -⟩ | ⟨e', he', herror⟩ |
        ⟨done, key, content, after, errno, named, rfl, hdone, hclash, herror⟩
      · rw [hw] at hrun
        cases hrun
      · rw [herror] at hrun
        cases hrun
        exact absurd he' hvalue
      · rw [herror] at hrun
        cases hrun
        have hloads : toVolume now (.object done) =
            .ok (outcome (loadEntries now done) (Volume.empty now)).2 := by
          rw [toVolume_object_eq_ok_iff, ← hdone]
        exact ⟨_, errno, named, rfl, ⟨done, key, content, after, rfl, ⟨_, hloads⟩, hclash⟩, rfl⟩
    | _ =>
      cases hload
      exact absurd (isValueError_of_label rfl) hvalue
  · rintro ⟨fields, errno, named, rfl, hclash, rfl⟩
    refine ⟨hclash.toVolume, ?_⟩
    obtain ⟨before, key, content, after, -, -, hclash⟩ := hclash
    exact hclash.not_isValueError

/-- The text of a snapshot with a first clash. -/
def TextClash (now : Int) (t : Text) (errno : Errno) (named : Text) : Prop :=
  ∃ fields, Json.parseText t = .ok (.object fields) ∧ FirstClash now fields errno named

theorem read_eq_error_iff (now : Int) (t : Text)
    (hdepth : Json.parseText t ≠ .error .tooDeep) (e : Error) :
    read now t = .error e ∧ ¬ e.IsValueError ↔
      ∃ errno named, TextClash now t errno named ∧ e = .volume (.file errno named) := by
  unfold read TextClash
  cases hparse : Json.parseText t with
  | error reason =>
    have hvalue : (Error.json reason).IsValueError := by
      cases reason with
      | malformed =>
        show "JSONDecodeError" ∈ valueErrors
        decide
      | longInteger digits => exact isValueError_of_label (e := .json (.longInteger digits)) rfl
      | tooDeep => exact absurd hparse hdepth
    constructor
    · rintro ⟨hload, hnot⟩
      cases hload
      exact absurd hvalue hnot
    · rintro ⟨errno, named, ⟨fields, hfields, -⟩, -⟩
      cases hfields
  | ok json =>
    have hiff := toVolume_eq_error_iff now json e
    constructor
    · intro h
      obtain ⟨fields, errno, named, rfl, hclash, he⟩ := hiff.mp h
      exact ⟨errno, named, ⟨fields, rfl, hclash⟩, he⟩
    · rintro ⟨errno, named, ⟨fields, hfields, hclash⟩, he⟩
      exact hiff.mpr ⟨fields, errno, named, Except.ok.inj hfields, hclash, he⟩

end Snapshot

end MemoryShell
