import MemoryShell.Proofs.Volume.Run

set_option autoImplicit false

namespace MemoryShell.Volume

def Error.bare : Error → Error
  | .file e _ => .file e []
  | e => e

def normalize (spelling : Text) : Text :=
  ((Path.parse? spelling).map Path.text).getD spelling

def Operation.spellings : Operation → List Text
  | .exists s | .stat s | .access s _ | .readDirectory s | .read s _ | .write _ s _
  | .makeDirectory s _ | .remove s _ _ | .setTimes s _ | .setMode s _ => [s]
  | .copyFile source destination => [source, destination]

def Operation.normalize : Operation → Operation
  | .exists s => .exists (Volume.normalize s)
  | .stat s => .stat (Volume.normalize s)
  | .access s request => .access (Volume.normalize s) request
  | .readDirectory s => .readDirectory (Volume.normalize s)
  | .read s encoding => .read (Volume.normalize s) encoding
  | .write mode s content => .write mode (Volume.normalize s) content
  | .makeDirectory s recursive => .makeDirectory (Volume.normalize s) recursive
  | .copyFile source destination =>
    .copyFile (Volume.normalize source) (Volume.normalize destination)
  | .remove s recursive force => .remove (Volume.normalize s) recursive force
  | .setTimes s mtime => .setTimes (Volume.normalize s) mtime
  | .setMode s mode => .setMode (Volume.normalize s) mode

theorem parse?_normalize (spelling : Text) :
    Path.parse? (normalize spelling) = Path.parse? spelling := by
  unfold normalize
  cases hp : Path.parse? spelling with
  | none => simpa using hp
  | some p => simp

variable {v : Volume} {s t : Text}

/-- Two results that differ at most in the spelling that a failure names. -/
def Alike {α : Type} (x y : Except Error α) : Prop :=
  x.mapError Error.bare = y.mapError Error.bare

theorem Alike.cases {α : Type} {x y : Except Error α} (h : Alike x y) :
    x = y ∨ ∃ e s t, x = .error (.file e s) ∧ y = .error (.file e t) := by
  rcases x with e | a
  · rcases y with f | b
    · have hef : e.bare = f.bare := Except.error.inj h
      rcases e with ⟨e, s⟩ | _ | _ | _ | _ | _ | _ <;>
        rcases f with ⟨f, t⟩ | _ | _ | _ | _ | _ | _ <;>
        simp only [Error.bare, reduceCtorEq, Error.file.injEq, and_true] at hef
      all_goals first
        | exact .inr ⟨e, s, t, rfl, hef ▸ rfl⟩
        | exact .inl (congrArg Except.error hef)
        | exact .inl rfl
    · cases h
  · rcases y with f | b
    · cases h
    · exact .inl (congrArg Except.ok (Except.ok.inj h))

theorem Alike.map {α β : Type} {x y : Except Error α} (h : Alike x y) (f : α → β) :
    Alike (x.map f) (y.map f) := by
  rcases h.cases with heq | ⟨e, s, t, hx, hy⟩
  · rw [heq]
    rfl
  · rw [hx, hy]
    rfl

variable (hst : Path.parse? s = Path.parse? t) (habs : (Path.parse? s).isSome = true)

include hst habs

theorem find_alike : Alike (v.find s) (v.find t) := by
  obtain ⟨p, hp⟩ := Option.isSome_iff_exists.mp habs
  unfold find
  rw [← hst, hp]
  by_cases hr : v.released
  · simp only [hr, if_true]
    rfl
  · simp only [hr]
    cases v.root.walk p <;> rfl

theorem slot_alike : Alike (v.slot s) (v.slot t) := by
  obtain ⟨p, hp⟩ := Option.isSome_iff_exists.mp habs
  unfold slot
  rw [← hst, hp]
  simp only
  cases p.getLast? with
  | none => rfl
  | some name =>
    simp only
    rcases v.find (Path.text p.dropLast) with e | (_ | _) <;> rfl

theorem writable_alike : Alike (v.writable s) (v.writable t) := by
  unfold writable
  rcases (slot_alike hst habs).cases with h | ⟨e, s', t', hs, ht⟩
  · rw [h]
    rcases v.slot t with e | slot
    · rfl
    · simp only [demanded]
      rcases slot.node? with _ | (_ | _)
      · simp only
        cases slot.stamp.allows Access.write.flag <;> rfl
      · rename_i stamp data
        simp only
        cases stamp.allows Access.write.flag <;> rfl
      · rfl
  · rw [hs, ht]
    rfl

theorem fileData_alike : Alike (v.fileData s) (v.fileData t) := by
  unfold fileData
  rcases (find_alike hst habs).cases with h | ⟨e, s', t', hs, ht⟩
  · rw [h]
    rcases v.find t with e | ⟨stamp, data⟩ | ⟨stamp, es⟩
    · rfl
    · simp only [demanded]
      cases stamp.allows Access.read.flag <;> rfl
    · rfl
  · rw [hs, ht]
    rfl

theorem occupied_alike : Alike (v.occupied s) (v.occupied t) := by
  unfold occupied
  rcases (slot_alike hst habs).cases with h | ⟨e, s', t', hs, ht⟩
  · rw [h]
    rcases v.slot t with e | slot
    · rfl
    · simp only
      cases slot.node? <;> rfl
  · rw [hs, ht]
    rfl

omit hst habs

/-- Two outcomes with alike results and the same volume. -/
def SameOutcome {α : Type} (x y : Except Error α × Volume) : Prop :=
  Alike x.1 y.1 ∧ x.2 = y.2

theorem SameOutcome.map {α β : Type} {x y : Except Error α × Volume} (h : SameOutcome x y)
    (f : α → β) : SameOutcome (x.1.map f, x.2) (y.1.map f, y.2) :=
  ⟨h.1.map f, h.2⟩

section

variable (hst : Path.parse? s = Path.parse? t) (habs : (Path.parse? s).isSome = true)

include hst habs

theorem exists_same : SameOutcome (outcome (exists? s) v) (outcome (exists? t) v) := by
  rw [outcome_exists?, outcome_exists?]
  refine ⟨?_, rfl⟩
  rcases (find_alike hst habs).cases with h | ⟨e, s', t', hs, ht⟩
  · rw [h]
    rfl
  · rw [hs, ht]
    simp only
    cases e.isMissing <;> rfl

theorem stat_same : SameOutcome (outcome (stat s) v) (outcome (stat t) v) := by
  rw [outcome_stat, outcome_stat, ← hst]
  exact ⟨(find_alike hst habs).map _, rfl⟩

theorem access_same (request : Int) :
    SameOutcome (outcome (access s request) v) (outcome (access t request) v) := by
  rw [outcome_access, outcome_access]
  refine ⟨?_, rfl⟩
  rcases (find_alike hst habs).cases with h | ⟨e, s', t', hs, ht⟩
  · rw [h]
    rcases v.find t with e | node
    · rfl
    · simp only [Except.bind, demanded]
      cases node.stamp.allows request <;> rfl
  · rw [hs, ht]
    rfl

theorem readDirectory_same :
    SameOutcome (outcome (readDirectory s) v) (outcome (readDirectory t) v) := by
  rw [outcome_readDirectory, outcome_readDirectory]
  refine ⟨?_, rfl⟩
  rcases (find_alike hst habs).cases with h | ⟨e, s', t', hs, ht⟩
  · rw [h]
    rcases v.find t with e | ⟨stamp, data⟩ | ⟨stamp, es⟩ <;> rfl
  · rw [hs, ht]
    rfl

theorem readText_same (encoding : String) :
    SameOutcome (outcome (readText s encoding) v) (outcome (readText t encoding) v) := by
  rw [outcome_readText, outcome_readText]
  refine ⟨?_, rfl⟩
  unfold fileText
  rcases (fileData_alike hst habs).cases with h | ⟨e, s', t', hs, ht⟩
  · rw [h]
    rfl
  · rw [hs, ht]
    rfl

theorem writeFile_same (now : Int) (mode : WriteMode) (data : Bytes) :
    SameOutcome (outcome (writeFile now mode s data) v) (outcome (writeFile now mode t data) v) := by
  rw [outcome_writeFile, outcome_writeFile]
  rcases (writable_alike hst habs).cases with h | ⟨e, s', t', hs, ht⟩
  · rw [h]
    exact ⟨rfl, rfl⟩
  · rw [hs, ht]
    exact ⟨rfl, rfl⟩

theorem writeContent_same (now : Int) (mode : WriteMode) (content : Content) :
    SameOutcome (outcome (writeContent now mode s content) v)
      (outcome (writeContent now mode t content) v) := by
  cases content with
  | octets data => exact writeFile_same hst habs now mode data
  | text text =>
    rw [writeContent, writeContent, outcome_writeText, outcome_writeText]
    cases Utf8.encodeText? text with
    | none => exact ⟨rfl, rfl⟩
    | some data => exact writeFile_same hst habs now mode data

theorem makeDirectory_same (now : Int) :
    SameOutcome (outcome (makeDirectory now s) v) (outcome (makeDirectory now t) v) := by
  rw [outcome_makeDirectory, outcome_makeDirectory]
  rcases (slot_alike hst habs).cases with h | ⟨e, s', t', hs, ht⟩
  · rw [h]
    rcases v.slot t with e | slot
    · exact ⟨rfl, rfl⟩
    · simp only [demanded]
      cases slot.node? with
      | some node => exact ⟨rfl, rfl⟩
      | none => cases slot.stamp.allows Access.write.flag <;> exact ⟨rfl, rfl⟩
  · rw [hs, ht]
    exact ⟨rfl, rfl⟩

theorem remove_same (now : Int) (recursive force : Bool) :
    SameOutcome (outcome (remove now s recursive force) v)
      (outcome (remove now t recursive force) v) := by
  rw [outcome_remove, outcome_remove]
  rcases (occupied_alike hst habs).cases with h | ⟨e, s', t', hs, ht⟩
  · rw [h]
    rcases v.occupied t with (⟨e, u⟩ | _ | _ | _ | _ | _ | _) | ⟨slot, node⟩
    · cases e <;> exact ⟨rfl, rfl⟩
    any_goals exact ⟨rfl, rfl⟩
    · simp only
      cases node.isDirectory && !recursive <;> exact ⟨rfl, rfl⟩
  · rw [hs, ht]
    cases e with
    | noEntry => cases force <;> exact ⟨rfl, rfl⟩
    | _ => exact ⟨rfl, rfl⟩

theorem setTimes_same (mtime : Json) :
    SameOutcome (outcome (setTimes s mtime) v) (outcome (setTimes t mtime) v) := by
  rw [outcome_setTimes, outcome_setTimes, ← hst]
  rcases (find_alike hst habs).cases with h | ⟨e, s', t', hs, ht⟩
  · rw [h]
    exact ⟨rfl, rfl⟩
  · rw [hs, ht]
    exact ⟨rfl, rfl⟩

theorem setMode_same (mode : Int) :
    SameOutcome (outcome (setMode s mode) v) (outcome (setMode t mode) v) := by
  rw [outcome_setMode, outcome_setMode, ← hst]
  rcases (find_alike hst habs).cases with h | ⟨e, s', t', hs, ht⟩
  · rw [h]
    exact ⟨rfl, rfl⟩
  · rw [hs, ht]
    exact ⟨rfl, rfl⟩

end

theorem makeBelow_same (now : Int) (s t : Text) (above rest : Path) (v : Volume) :
    SameOutcome (outcome (makeBelow now s above rest) v)
      (outcome (makeBelow now t above rest) v) := by
  induction rest generalizing above v with
  | nil => exact ⟨rfl, rfl⟩
  | cons name rest ih =>
    rw [outcome_makeBelow_cons, outcome_makeBelow_cons]
    rcases v.root.at? (above ++ [name]) with _ | (_ | _)
    · exact ih _ _
    · exact ⟨rfl, rfl⟩
    · exact ih _ _

theorem makeDirectories_same (hst : Path.parse? s = Path.parse? t)
    (habs : (Path.parse? s).isSome = true) (now : Int) :
    SameOutcome (outcome (makeDirectories now s) v) (outcome (makeDirectories now t) v) := by
  obtain ⟨p, hp⟩ := Option.isSome_iff_exists.mp habs
  rw [outcome_makeDirectories, outcome_makeDirectories, ← hst, hp]
  split
  · exact ⟨rfl, rfl⟩
  · exact makeBelow_same now s t [] p v

theorem copyFile_same (hst : Path.parse? s = Path.parse? t)
    (habs : (Path.parse? s).isSome = true) {s' t' : Text}
    (hst' : Path.parse? s' = Path.parse? t') (habs' : (Path.parse? s').isSome = true) (now : Int) :
    SameOutcome (outcome (copyFile now s s') v) (outcome (copyFile now t t') v) := by
  rw [outcome_copyFile, outcome_copyFile]
  rcases (fileData_alike hst habs).cases with h | ⟨e, u, u', hs, ht⟩
  · rw [h]
    rcases v.fileData t with e | data
    · exact ⟨rfl, rfl⟩
    · exact writeFile_same hst' habs' now .replace data
  · rw [hs, ht]
    exact ⟨rfl, rfl⟩

theorem perform_normalize_same {op : Operation}
    (hop : ∀ s ∈ op.spellings, (Path.parse? s).isSome = true) (now : Int) (v : Volume) :
    SameOutcome (outcome (op.perform now) v) (outcome (op.normalize.perform now) v) := by
  have hst (s : Text) := (parse?_normalize s).symm
  cases op with
  | «exists» s =>
    simp only [Operation.normalize, Operation.perform, outcome_map]
    exact (exists_same (hst s) (hop s List.mem_cons_self)).map _
  | stat s =>
    simp only [Operation.normalize, Operation.perform, outcome_map]
    exact (stat_same (hst s) (hop s List.mem_cons_self)).map _
  | access s request =>
    simp only [Operation.normalize, Operation.perform, outcome_silent]
    exact (access_same (hst s) (hop s List.mem_cons_self) request).map _
  | readDirectory s =>
    simp only [Operation.normalize, Operation.perform, outcome_map]
    exact (readDirectory_same (hst s) (hop s List.mem_cons_self)).map _
  | read s encoding =>
    cases encoding with
    | none =>
      simp only [Operation.normalize, Operation.perform, outcome_map, outcome_readFile]
      exact ⟨(fileData_alike (hst s) (hop s List.mem_cons_self)).map _, rfl⟩
    | some name =>
      simp only [Operation.normalize, Operation.perform, outcome_map]
      exact (readText_same (hst s) (hop s List.mem_cons_self) name).map _
  | write mode s content =>
    simp only [Operation.normalize, Operation.perform, outcome_silent]
    exact (writeContent_same (hst s) (hop s List.mem_cons_self) now mode content).map _
  | makeDirectory s recursive =>
    cases recursive with
    | false =>
      simp only [Operation.normalize, Operation.perform, outcome_silent]
      exact (makeDirectory_same (hst s) (hop s List.mem_cons_self) now).map _
    | true =>
      simp only [Operation.normalize, Operation.perform, outcome_silent]
      exact (makeDirectories_same (hst s) (hop s List.mem_cons_self) now).map _
  | copyFile s t =>
    simp only [Operation.normalize, Operation.perform, outcome_silent]
    have ht : t ∈ (Operation.copyFile s t).spellings := List.mem_cons_of_mem s List.mem_cons_self
    exact (copyFile_same (hst s) (hop s List.mem_cons_self) (hst t) (hop t ht) now).map _
  | remove s recursive force =>
    simp only [Operation.normalize, Operation.perform, outcome_silent]
    exact (remove_same (hst s) (hop s List.mem_cons_self) now recursive force).map _
  | setTimes s mtime =>
    simp only [Operation.normalize, Operation.perform, outcome_silent]
    exact (setTimes_same (hst s) (hop s List.mem_cons_self) mtime).map _
  | setMode s mode =>
    simp only [Operation.normalize, Operation.perform, outcome_silent]
    exact (setMode_same (hst s) (hop s List.mem_cons_self) mode).map _

end MemoryShell.Volume
