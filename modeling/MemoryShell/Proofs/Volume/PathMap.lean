import Mathlib.Data.Finset.Sort
import Mathlib.Data.Finset.Union
import Mathlib.Data.Finset.Lattice.Basic
import Mathlib.Data.Finset.Option
import MemoryShell.Proofs.Tree.Entries
import MemoryShell.Volume.Operation

set_option autoImplicit false

namespace MemoryShell

/-- What stands at a path of a flat map. -/
inductive FlatEntry
  | directory (mode : Nat)
  | file (mode : Nat) (data : Bytes)
  deriving DecidableEq

namespace FlatEntry

def kind : FlatEntry → Volume.Kind
  | .directory _ => .directory
  | .file _ _ => .file

def mode : FlatEntry → Nat
  | .directory m => m
  | .file m _ => m

def size : FlatEntry → Nat
  | .directory _ => 0
  | .file _ data => data.length

def withMode (m : Nat) : FlatEntry → FlatEntry
  | .directory _ => .directory m
  | .file _ data => .file m data

def mapData (f : Bytes → Bytes) : FlatEntry → FlatEntry
  | .directory m => .directory m
  | .file m data => .file m (f data)

theorem kind_withMode (m : Nat) (e : FlatEntry) : (e.withMode m).kind = e.kind := by
  cases e <;> rfl

theorem kind_mapData (f : Bytes → Bytes) (e : FlatEntry) : (e.mapData f).kind = e.kind := by
  cases e <;> rfl

theorem eq_directory_of_kind {e : FlatEntry} (h : e.kind = .directory) :
    e = .directory e.mode := by
  cases e with
  | directory m => rfl
  | file m data => cases h

end FlatEntry

/-- A finite map of paths to entries, closed under what lies above, with a directory at the root. -/
structure PathMap where
  paths : Finset Path
  entry : Path → Option FlatEntry
  mem_paths : ∀ p, p ∈ paths ↔ (entry p).isSome = true
  root : ∃ mode, entry [] = some (.directory mode)
  closed : ∀ p name, (entry (p ++ [name])).isSome = true → ∃ mode, entry p = some (.directory mode)

/-- Why an operation on a flat map fails. -/
inductive FlatError
  | file (e : Errno)
  | unencodable
  | unknownEncoding (name : String)
  | nullInEncoding
  deriving DecidableEq

/-- What an operation on a flat map answers. -/
inductive FlatValue
  | nothing
  | flag (b : Bool)
  | stat (path : Text) (kind : Volume.Kind) (size mode : Nat)
  | names (ns : List Name)
  | text (s : String)
  | octets (bs : Bytes)

/-- An operation at paths. -/
inductive FlatOperation
  | exists (p : Path)
  | stat (p : Path)
  | access (p : Path) (request : Int)
  | readDirectory (p : Path)
  | read (p : Path) (encoding : Option String)
  | write (mode : Volume.WriteMode) (p : Path) (content : Volume.Content)
  | makeDirectory (p : Path) (recursive : Bool)
  | copyFile (source destination : Path)
  | remove (p : Path) (recursive force : Bool)
  | setTimes (p : Path)
  | setMode (p : Path) (mode : Int)

namespace PathMap

theorem ext_entry {m n : PathMap} (h : ∀ p, m.entry p = n.entry p) : m = n := by
  have hp : m.paths = n.paths := by
    ext p
    rw [m.mem_paths, n.mem_paths, h]
  have he : m.entry = n.entry := funext h
  cases m
  cases n
  subst hp he
  rfl

def isFile (m : PathMap) (p : Path) : Bool :=
  match m.entry p with
  | some (.file _ _) => true
  | _ => false

def isDirectory (m : PathMap) (p : Path) : Bool :=
  match m.entry p with
  | some (.directory _) => true
  | _ => false

theorem isDirectory_iff (m : PathMap) (p : Path) :
    m.isDirectory p = true ↔ ∃ mode, m.entry p = some (.directory mode) := by
  unfold isDirectory
  rcases m.entry p with _ | ⟨mode⟩ | ⟨mode, data⟩ <;> simp

def isBlocked (m : PathMap) (p : Path) : Bool :=
  p.inits.any m.isFile

def find (m : PathMap) (p : Path) : Except Errno FlatEntry :=
  match m.entry p with
  | some e => .ok e
  | none => .error (if m.isBlocked p then .notDirectory else .noEntry)

def parent (m : PathMap) (p : Path) : Except Errno Nat :=
  if p = [] then .error .notPermitted
  else
    match m.find p.dropLast with
    | .error e => .error e
    | .ok (.file _ _) => .error .notDirectory
    | .ok (.directory mode) => .ok mode

def allows (mode : Nat) (request : Int) : Bool :=
  [Access.read, .write, .execute].all fun a =>
    !a.askedBy request || (mode / a.ownerBit % 2 = 1)

def names (m : PathMap) (p : Path) : List Name :=
  (m.paths.biUnion fun q => if q.dropLast = p then q.getLast?.toFinset else ∅).sort

def put (m : PathMap) (p : Path) (name : Name) (e : FlatEntry) : PathMap :=
  if h : m.isDirectory p = true ∧ m.entry (p ++ [name]) = none then
    { paths := insert (p ++ [name]) m.paths
      entry := fun q => if q = p ++ [name] then some e else m.entry q
      mem_paths := by
        intro q
        by_cases hq : q = p ++ [name]
        · simp [hq]
        · simp [hq, m.mem_paths]
      root := by
        obtain ⟨mode, hroot⟩ := m.root
        exact ⟨mode, by simp [hroot]⟩
      closed := by
        intro q other hq
        obtain ⟨hd, hmissing⟩ := h
        obtain ⟨mode, hp⟩ := (m.isDirectory_iff p).mp hd
        by_cases heq : q ++ [other] = p ++ [name]
        · obtain ⟨rfl, -⟩ := List.append_inj' heq rfl
          exact ⟨mode, by simp [hp]⟩
        · rw [if_neg heq] at hq
          obtain ⟨mode', hd⟩ := m.closed q other hq
          have hne : q ≠ p ++ [name] := by
            intro h
            rw [h, hmissing] at hd
            cases hd
          exact ⟨mode', by simp [hne, hd]⟩ }
  else m

def alter (m : PathMap) (p : Path) (f : FlatEntry → FlatEntry)
    (hf : ∀ e, (f e).kind = e.kind) : PathMap where
  paths := m.paths
  entry q := if q = p then (m.entry q).map f else m.entry q
  mem_paths q := by
    by_cases hq : q = p <;> simp [hq, m.mem_paths]
  root := by
    obtain ⟨mode, hroot⟩ := m.root
    by_cases hp : [] = p
    · have hk := FlatEntry.eq_directory_of_kind (hf (.directory mode))
      exact ⟨_, by rw [if_pos hp, hroot, Option.map_some, hk]⟩
    · exact ⟨mode, by rw [if_neg hp, hroot]⟩
  closed q name hq := by
    have hold : (m.entry (q ++ [name])).isSome = true := by
      by_cases hp : q ++ [name] = p
      · simpa [hp] using hq
      · simpa [hp] using hq
    obtain ⟨mode, hd⟩ := m.closed q name hold
    by_cases hp : q = p
    · have hk := FlatEntry.eq_directory_of_kind (hf (.directory mode))
      exact ⟨_, by rw [if_pos hp, hd, Option.map_some, hk]⟩
    · exact ⟨mode, by rw [if_neg hp, hd]⟩

def without (m : PathMap) (p : Path) : PathMap :=
  if hp : p = [] then m
  else
    { paths := m.paths.filter fun q => ¬ p <+: q
      entry := fun q => if p <+: q then none else m.entry q
      mem_paths := by
        intro q
        by_cases hq : p <+: q <;> simp [hq, m.mem_paths]
      root := by
        obtain ⟨mode, hroot⟩ := m.root
        exact ⟨mode, by simp [hp, hroot]⟩
      closed := by
        intro q name hq
        by_cases hpre : p <+: q ++ [name]
        · simp [hpre] at hq
        · rw [if_neg hpre] at hq
          obtain ⟨mode, hd⟩ := m.closed q name hq
          have hqp : ¬ p <+: q := fun h => hpre (h.trans (List.prefix_append q [name]))
          exact ⟨mode, by simp [hqp, hd]⟩ }

def withDirectories (m : PathMap) (p : Path) : PathMap :=
  if h : m.isBlocked p = true then m
  else
    { paths := m.paths ∪ p.inits.toFinset
      entry := fun q =>
        if q <+: p ∧ m.entry q = none then some (.directory Stamp.directoryMode) else m.entry q
      mem_paths := by
        intro q
        rw [Finset.mem_union, m.mem_paths, List.mem_toFinset, List.mem_inits]
        by_cases hq : m.entry q = none
        · by_cases hp : q <+: p <;> simp [hq, hp]
        · simp [hq, Option.isSome_iff_ne_none]
      root := by
        obtain ⟨mode, hroot⟩ := m.root
        exact ⟨mode, by simp [hroot]⟩
      closed := by
        intro q name hq
        by_cases hpre : q ++ [name] <+: p
        · have hqp : q <+: p := (List.prefix_append q [name]).trans hpre
          cases hd : m.entry q with
          | none => exact ⟨Stamp.directoryMode, by simp [hqp]⟩
          | some e =>
            cases e with
            | directory mode => exact ⟨mode, by simp⟩
            | file mode data =>
              refine absurd (List.any_eq_true.mpr ⟨q, (List.mem_inits q p).mpr hqp, ?_⟩) h
              simp [isFile, hd]
        · simp only [hpre, false_and, if_false] at hq
          obtain ⟨mode, hd⟩ := m.closed q name hq
          exact ⟨mode, by simp [hd]⟩ }

variable {m : PathMap} {p : Path}

theorem entry_put (hd : m.isDirectory p = true) {name : Name} (hfree : m.entry (p ++ [name]) = none)
    (e : FlatEntry) (q : Path) :
    (m.put p name e).entry q = if q = p ++ [name] then some e else m.entry q := by
  simp [put, hd, hfree]

theorem entry_alter (m : PathMap) (p : Path) {f : FlatEntry → FlatEntry}
    (hf : ∀ e, (f e).kind = e.kind) (q : Path) :
    (m.alter p f hf).entry q = if q = p then (m.entry q).map f else m.entry q := rfl

theorem entry_without (m : PathMap) (hp : p ≠ []) (q : Path) :
    (m.without p).entry q = if p <+: q then none else m.entry q := by
  simp [without, hp]

theorem entry_withDirectories (hp : m.isBlocked p = false) (q : Path) :
    (m.withDirectories p).entry q =
      if q <+: p ∧ m.entry q = none then some (.directory Stamp.directoryMode)
      else m.entry q := by
  simp [withDirectories, hp]

theorem isBlocked_put (hd : m.isDirectory p = true) {name : Name}
    (hfree : m.entry (p ++ [name]) = none) (mode : Nat) (q : Path) :
    (m.put p name (.directory mode)).isBlocked q = m.isBlocked q := by
  have hfile : (m.put p name (.directory mode)).isFile = m.isFile := by
    funext r
    unfold isFile
    rw [entry_put hd hfree]
    by_cases hr : r = p ++ [name]
    · rw [if_pos hr, hr, hfree]
    · rw [if_neg hr]
  rw [isBlocked, isBlocked, hfile]

theorem withDirectories_put (hd : m.isDirectory p = true) {name : Name}
    (hfree : m.entry (p ++ [name]) = none) {q : Path} (hpre : p ++ [name] <+: q)
    (hq : m.isBlocked q = false) :
    (m.put p name (.directory Stamp.directoryMode)).withDirectories q = m.withDirectories q := by
  refine ext_entry fun r => ?_
  rw [entry_withDirectories ((isBlocked_put hd hfree _ q).trans hq), entry_withDirectories hq,
    entry_put hd hfree]
  by_cases hr : r = p ++ [name]
  · simp [hr, hfree, hpre]
  · simp [hr]

theorem exists_directory_of_prefix (m : PathMap) {q : Path} (hd : m.isDirectory p = true)
    (hq : q <+: p) : ∃ mode, m.entry q = some (.directory mode) := by
  obtain ⟨r, rfl⟩ := hq
  -- one name of the rest is taken off after the other
  induction r using List.reverseRecOn with
  | nil =>
    rw [List.append_nil] at hd
    exact (m.isDirectory_iff q).mp hd
  | append_singleton r name ih =>
    obtain ⟨mode, hmode⟩ := (m.isDirectory_iff _).mp hd
    rw [← List.append_assoc] at hmode
    have habove := m.closed (q ++ r) name (by rw [hmode, Option.isSome_some])
    exact ih ((m.isDirectory_iff _).mpr habove)

theorem withDirectories_of_isDirectory (hd : m.isDirectory p = true) (hp : m.isBlocked p = false) :
    m.withDirectories p = m := by
  refine ext_entry fun r => ?_
  rw [entry_withDirectories hp]
  split
  · rename_i h
    obtain ⟨mode, hr⟩ := m.exists_directory_of_prefix hd h.1
    rw [h.2] at hr
    cases hr
  · rfl

def octets? : Volume.Content → Option Bytes
  | .text t => Utf8.encodeText? t
  | .octets bs => some bs

def read (m : PathMap) (p : Path) : Except FlatError Bytes :=
  match m.find p with
  | .error e => .error (.file e)
  | .ok (.directory _) => .error (.file .isDirectory)
  | .ok (.file mode data) =>
    if allows mode Access.read.flag then .ok data else .error (.file .accessDenied)

def decode (encoding : String) (data : Bytes) : Except FlatError String :=
  if encoding.toList.contains '\x00' then .error .nullInEncoding
  else
    match Encoding.ofName? encoding with
    | some e => .ok (e.decode data)
    | none => if data.isEmpty then .ok "" else .error (.unknownEncoding encoding)

/-- Writes octets: a missing file needs leave of the directory above it, an existing one of
itself. -/
def write (m : PathMap) (mode : Volume.WriteMode) (p : Path) (data : Bytes) :
    Except FlatError FlatValue × PathMap :=
  match m.parent p, p.getLast?, m.entry p with
  | .error e, _, _ => (.error (.file e), m)
  | .ok above, some name, none =>
    if allows above Access.write.flag then
      (.ok .nothing, m.put p.dropLast name (.file Stamp.fileMode data))
    else (.error (.file .accessDenied), m)
  | .ok _, _, some (.directory _) => (.error (.file .isDirectory), m)
  | .ok _, _, some (.file own _) =>
    if allows own Access.write.flag then
      (.ok .nothing, m.alter p (.mapData (mode.combine data)) (FlatEntry.kind_mapData _))
    else (.error (.file .accessDenied), m)
  | .ok _, none, none => (.error (.file .notPermitted), m)

def makeDirectory (m : PathMap) (p : Path) : Except FlatError FlatValue × PathMap :=
  match m.parent p, p.getLast? with
  | .error e, _ => (.error (.file e), m)
  | .ok _, none => (.error (.file .notPermitted), m)
  | .ok above, some name =>
    if (m.entry p).isSome then (.error (.file .exists), m)
    else if allows above Access.write.flag then
      (.ok .nothing, m.put p.dropLast name (.directory Stamp.directoryMode))
    else (.error (.file .accessDenied), m)

def remove (m : PathMap) (p : Path) (recursive force : Bool) :
    Except FlatError FlatValue × PathMap :=
  match m.parent p, m.entry p with
  | .error .noEntry, _ => (if force then .ok .nothing else .error (.file .noEntry), m)
  | .error e, _ => (.error (.file e), m)
  | .ok _, none => (if force then .ok .nothing else .error (.file .noEntry), m)
  | .ok _, some (.file _ _) => (.ok .nothing, m.without p)
  | .ok _, some (.directory _) =>
    if recursive then (.ok .nothing, m.without p) else (.error (.file .isDirectory), m)

def perform (m : PathMap) : FlatOperation → Except FlatError FlatValue × PathMap
  | .exists p => (.ok (.flag (m.entry p).isSome), m)
  | .stat p => (((m.find p).map fun e => .stat p.text e.kind e.size e.mode).mapError .file, m)
  | .access p request =>
    match m.find p with
    | .error e => (.error (.file e), m)
    | .ok e =>
      (if allows e.mode request then .ok .nothing else .error (.file .accessDenied), m)
  | .readDirectory p =>
    match m.find p with
    | .error e => (.error (.file e), m)
    | .ok (.file _ _) => (.error (.file .notDirectory), m)
    | .ok (.directory _) => (.ok (.names (m.names p)), m)
  | .read p none => ((m.read p).map .octets, m)
  | .read p (some encoding) => (((m.read p).bind (decode encoding)).map .text, m)
  | .write mode p content =>
    match octets? content with
    | none => (.error .unencodable, m)
    | some data => m.write mode p data
  | .makeDirectory p false => m.makeDirectory p
  | .makeDirectory p true =>
    if m.isBlocked p then (.error (.file .notDirectory), m)
    else (.ok .nothing, m.withDirectories p)
  | .copyFile source destination =>
    match m.read source with
    | .error e => (.error e, m)
    | .ok data => m.write .replace destination data
  | .remove p recursive force => m.remove p recursive force
  | .setTimes p => (((m.find p).map fun _ => .nothing).mapError .file, m)
  | .setMode p mode =>
    match m.find p with
    | .error e => (.error (.file e), m)
    | .ok _ =>
      (.ok .nothing, m.alter p (.withMode (mode % 0o1000).toNat) (FlatEntry.kind_withMode _))

end PathMap

end MemoryShell
