import MemoryShell.Proofs.AllOrNothing
import MemoryShell.Proofs.Path.Spelling
import MemoryShell.Volume.Operation

set_option autoImplicit false

namespace MemoryShell

theorem Stamp.allows_flag (s : Stamp) (a : Access) : s.allows a.flag = s.grants a := by
  cases a <;> simp [Stamp.allows, Access.askedBy, Access.flag]

namespace Volume

def find (v : Volume) (spelling : Text) : Except Error Node :=
  if v.released then .error .released
  else
    match Path.parse? spelling with
    | none => .error (.relative spelling)
    | some p => (v.root.walk p).mapError fun e => .file e spelling

def slot (v : Volume) (spelling : Text) : Except Error Slot :=
  match Path.parse? spelling with
  | none => .error (.relative spelling)
  | some p =>
    match p.getLast? with
    | none => .error (.file .notPermitted spelling)
    | some name =>
      match v.find (Path.text p.dropLast) with
      | .error e => .error e
      | .ok (.file _ _) => .error (.file .notDirectory spelling)
      | .ok (.directory stamp entries) => .ok ⟨p.dropLast, stamp, entries, name⟩

def demanded (s : Stamp) (request : Int) (spelling : Text) : Except Error Unit :=
  if s.allows request then .ok () else .error (.file .accessDenied spelling)

def writable (v : Volume) (spelling : Text) : Except Error Slot :=
  match v.slot spelling with
  | .error e => .error e
  | .ok slot =>
    match slot.node? with
    | none => (demanded slot.stamp Access.write.flag spelling).map fun _ => slot
    | some (.directory _ _) => .error (.file .isDirectory spelling)
    | some (.file s _) => (demanded s Access.write.flag spelling).map fun _ => slot

def fileData (v : Volume) (spelling : Text) : Except Error Bytes :=
  match v.find spelling with
  | .error e => .error e
  | .ok (.directory _ _) => .error (.file .isDirectory spelling)
  | .ok (.file s data) => (demanded s Access.read.flag spelling).map fun _ => data

def changed (v : Volume) (p : Path) (f : Node → Node) : Volume :=
  { v with root := v.root.modify f p }

def placed (v : Volume) (now : Int) (directory : Path) (name : Name) (node : Node) : Volume :=
  v.changed directory fun d => (d.mapEntries (Entries.insert · name node)).touch now

def emptied (v : Volume) (now : Int) (directory : Path) (name : Name) : Volume :=
  v.changed directory fun d => (d.mapEntries (Entries.erase · name)).touch now

def filled (v : Volume) (now : Int) (mode : WriteMode) (slot : Slot) (data : Bytes) : Volume :=
  match slot.node? with
  | none => v.placed now slot.directory slot.name (.newFile now data)
  | some _ => v.changed slot.path fun node => (node.setData (mode.combine data)).touch now

@[simp] theorem outcome_ensureOpen (v : Volume) :
    outcome ensureOpen v = (if v.released then .error .released else .ok (), v) := by
  by_cases h : v.released <;> simp [ensureOpen, outcome_bind, h]

@[simp] theorem outcome_locate (spelling : Text) (v : Volume) :
    outcome (locate spelling) v =
      (match Path.parse? spelling with
        | some p => .ok p
        | none => .error (.relative spelling), v) := by
  cases h : Path.parse? spelling <;> simp [locate, h]

@[simp] theorem outcome_lookup (spelling : Text) (v : Volume) :
    outcome (lookup spelling) v = (v.find spelling, v) := by
  unfold lookup find
  rw [outcome_bind, outcome_ensureOpen]
  by_cases hr : v.released
  · simp [hr]
  · cases hp : Path.parse? spelling with
    | none => simp [hr, hp, outcome_bind]
    | some p => cases hw : v.root.walk p <;> simp [hr, hp, hw, outcome_bind]

@[simp] theorem outcome_slotOf (spelling : Text) (v : Volume) :
    outcome (slotOf spelling) v = (v.slot spelling, v) := by
  unfold slotOf slot
  rw [outcome_bind, outcome_locate]
  cases hp : Path.parse? spelling with
  | none => simp
  | some p =>
    cases hl : p.getLast? with
    | none => simp [hl]
    | some name =>
      simp only [hl, outcome_bind, outcome_lookup]
      cases v.find (Path.text p.dropLast) with
      | error e => simp
      | ok node => cases node <;> simp

@[simp] theorem outcome_demand (s : Stamp) (request : Int) (spelling : Text) (v : Volume) :
    outcome (demand s request spelling) v = (demanded s request spelling, v) := by
  by_cases h : s.allows request <;> simp [demand, demanded, h]

@[simp] theorem outcome_change (p : Path) (f : Node → Node) (v : Volume) :
    outcome (change p f) v = (.ok (), v.changed p f) := rfl

@[simp] theorem outcome_place (now : Int) (directory : Path) (name : Name) (node : Node)
    (v : Volume) :
    outcome (place now directory name node) v = (.ok (), v.placed now directory name node) := rfl

theorem outcome_exists? (spelling : Text) (v : Volume) :
    outcome (exists? spelling) v =
      (match v.find spelling with
        | .ok _ => .ok true
        | .error (.file e p) => if e.isMissing then .ok false else .error (.file e p)
        | .error e => .error e, v) := by
  unfold exists?
  rw [outcome_bind, outcome_attempt, outcome_lookup]
  cases v.find spelling with
  | ok node => simp
  | error e =>
    cases e with
    | file e p => by_cases h : e.isMissing <;> simp [h]
    | _ => simp

theorem outcome_stat (spelling : Text) (v : Volume) :
    outcome (stat spelling) v =
      ((v.find spelling).map (Stat.ofNode ((Path.parse? spelling).getD [])), v) := by
  unfold stat
  rw [outcome_bind, outcome_lookup]
  cases hf : v.find spelling with
  | error e => rfl
  | ok node =>
    cases hp : Path.parse? spelling with
    | none =>
      simp only [find, hp] at hf
      split at hf <;> cases hf
    | some p => simp [outcome_map, hp, Except.map]

theorem outcome_access (spelling : Text) (request : Int) (v : Volume) :
    outcome (access spelling request) v =
      ((v.find spelling).bind fun node => demanded node.stamp request spelling, v) := by
  unfold access
  rw [outcome_bind, outcome_lookup]
  cases v.find spelling <;> simp [Except.bind]

theorem outcome_readDirectory (spelling : Text) (v : Volume) :
    outcome (readDirectory spelling) v =
      (match v.find spelling with
        | .error e => .error e
        | .ok (.file _ _) => .error (.file .notDirectory spelling)
        | .ok (.directory _ entries) => .ok (entries.map Prod.fst), v) := by
  unfold readDirectory
  rw [outcome_bind, outcome_lookup]
  cases v.find spelling with
  | error e => rfl
  | ok node => cases node <;> simp

@[simp] theorem outcome_readFile (spelling : Text) (v : Volume) :
    outcome (readFile spelling) v = (v.fileData spelling, v) := by
  unfold readFile fileData
  rw [outcome_bind, outcome_lookup]
  cases v.find spelling with
  | error e => rfl
  | ok node =>
    cases node with
    | directory s es => simp
    | file s data =>
      simp only [outcome_bind, outcome_demand]
      cases demanded s Access.read.flag spelling <;> simp [Except.map]

@[simp] theorem outcome_writableSlot (spelling : Text) (v : Volume) :
    outcome (writableSlot spelling) v = (v.writable spelling, v) := by
  unfold writableSlot writable
  rw [outcome_bind, outcome_slotOf]
  cases v.slot spelling with
  | error e => rfl
  | ok slot =>
    cases hn : slot.node? with
    | none =>
      simp only [hn, outcome_bind, outcome_demand]
      cases demanded slot.stamp Access.write.flag spelling <;> simp [Except.map]
    | some node =>
      cases node with
      | directory s es => simp [hn]
      | file s data =>
        simp only [hn, outcome_bind, outcome_demand]
        cases demanded s Access.write.flag spelling <;> simp [Except.map]

@[simp] theorem outcome_store (now : Int) (mode : WriteMode) (slot : Slot) (data : Bytes)
    (v : Volume) : outcome (store now mode slot data) v = (.ok (), v.filled now mode slot data) := by
  unfold store filled
  cases slot.node? <;> simp

theorem outcome_writeFile (now : Int) (mode : WriteMode) (spelling : Text) (data : Bytes)
    (v : Volume) :
    outcome (writeFile now mode spelling data) v =
      match v.writable spelling with
      | .ok slot => (.ok (), v.filled now mode slot data)
      | .error e => (.error e, v) := by
  unfold writeFile
  rw [outcome_bind, outcome_writableSlot]
  cases v.writable spelling <;> simp

theorem outcome_writeText (now : Int) (mode : WriteMode) (spelling t : Text) (v : Volume) :
    outcome (writeText now mode spelling t) v =
      match Utf8.encodeText? t with
      | none => (.error .unencodable, v)
      | some data => outcome (writeFile now mode spelling data) v := by
  unfold writeText
  cases Utf8.encodeText? t <;> rfl

theorem outcome_makeDirectory (now : Int) (spelling : Text) (v : Volume) :
    outcome (makeDirectory now spelling) v =
      match v.slot spelling with
      | .error e => (.error e, v)
      | .ok slot =>
        match slot.node?, demanded slot.stamp Access.write.flag spelling with
        | some _, _ => (.error (.file .exists spelling), v)
        | none, .error e => (.error e, v)
        | none, .ok _ => (.ok (), v.placed now slot.directory slot.name (.newDirectory now)) := by
  unfold makeDirectory
  rw [outcome_bind, outcome_slotOf]
  cases v.slot spelling with
  | error e => rfl
  | ok slot =>
    cases hn : slot.node? with
    | some node => simp [hn]
    | none =>
      simp only [hn, outcome_bind, outcome_demand]
      cases demanded slot.stamp Access.write.flag spelling <;> simp

@[simp] theorem outcome_makeBelow_nil (now : Int) (spelling : Text) (above : Path) (v : Volume) :
    outcome (makeBelow now spelling above []) v = (.ok (), v) := rfl

theorem outcome_makeBelow_cons (now : Int) (spelling : Text) (above : Path) (name : Name)
    (rest : Path) (v : Volume) :
    outcome (makeBelow now spelling above (name :: rest)) v =
      match v.root.at? (above ++ [name]) with
      | none =>
        outcome (makeBelow now spelling (above ++ [name]) rest)
          (v.placed now above name (.newDirectory now))
      | some (.file _ _) => (.error (.file .notDirectory spelling), v)
      | some (.directory _ _) => outcome (makeBelow now spelling (above ++ [name]) rest) v := by
  rw [makeBelow]
  simp only [outcome_bind, outcome_get]
  cases v.root.at? (above ++ [name]) with
  | none => simp [outcome_bind]
  | some node => cases node <;> simp

theorem outcome_makeDirectories (now : Int) (spelling : Text) (v : Volume) :
    outcome (makeDirectories now spelling) v =
      if v.released then (.error .released, v)
      else
        match Path.parse? spelling with
        | none => (.error (.relative spelling), v)
        | some p => outcome (makeBelow now spelling [] p) v := by
  unfold makeDirectories
  rw [outcome_bind, outcome_ensureOpen]
  by_cases hr : v.released
  · simp [hr]
  · cases hp : Path.parse? spelling <;> simp [hr, hp, outcome_bind]

theorem outcome_copyFile (now : Int) (source destination : Text) (v : Volume) :
    outcome (copyFile now source destination) v =
      match v.fileData source with
      | .error e => (.error e, v)
      | .ok data => outcome (writeFile now .replace destination data) v := by
  unfold copyFile
  rw [outcome_bind, outcome_readFile]
  cases v.fileData source <;> rfl

def occupied (v : Volume) (spelling : Text) : Except Error (Slot × Node) :=
  match v.slot spelling with
  | .error e => .error e
  | .ok slot =>
    match slot.node? with
    | none => .error (.file .noEntry spelling)
    | some node => .ok (slot, node)

@[simp] theorem outcome_filledSlot (spelling : Text) (v : Volume) :
    outcome (filledSlot spelling) v = (v.occupied spelling, v) := by
  unfold filledSlot occupied
  rw [outcome_bind, outcome_slotOf]
  cases v.slot spelling with
  | error e => rfl
  | ok slot => cases hn : slot.node? <;> simp [hn]

theorem outcome_remove (now : Int) (spelling : Text) (recursive force : Bool) (v : Volume) :
    outcome (remove now spelling recursive force) v =
      match v.occupied spelling with
      | .error (.file .noEntry p) => (if force then .ok () else .error (.file .noEntry p), v)
      | .error e => (.error e, v)
      | .ok (slot, node) =>
        if node.isDirectory && !recursive then (.error (.file .isDirectory spelling), v)
        else (.ok (), v.emptied now slot.directory slot.name) := by
  unfold remove
  rw [outcome_bind, outcome_attempt, outcome_filledSlot]
  rcases h : v.occupied spelling with e | ⟨slot, node⟩
  · rcases e with ⟨e, p⟩ | _ | _ | _ | _ | _ | _
    · cases e <;> by_cases hf : force <;> simp [hf]
    all_goals simp
  · simp only
    split
    · simp
    · rfl

theorem outcome_setTimes (spelling : Text) (mtime : Json) (v : Volume) :
    outcome (setTimes spelling mtime) v =
      match v.find spelling with
      | .error e => (.error e, v)
      | .ok _ => (.ok (), v.changed ((Path.parse? spelling).getD []) (Node.setTime mtime)) := by
  unfold setTimes
  rw [outcome_bind, outcome_lookup]
  cases hf : v.find spelling with
  | error e => rfl
  | ok node =>
    cases hp : Path.parse? spelling with
    | none =>
      simp only [find, hp] at hf
      split at hf <;> cases hf
    | some p => simp [outcome_bind, hp]

theorem outcome_setMode (spelling : Text) (mode : Int) (v : Volume) :
    outcome (setMode spelling mode) v =
      match v.find spelling with
      | .error e => (.error e, v)
      | .ok _ =>
        (.ok (), v.changed ((Path.parse? spelling).getD [])
          (Node.mapStamp fun s => { s with mode := (mode % 0o1000).toNat })) := by
  unfold setMode
  rw [outcome_bind, outcome_lookup]
  cases hf : v.find spelling with
  | error e => rfl
  | ok node =>
    cases hp : Path.parse? spelling with
    | none =>
      simp only [find, hp] at hf
      split at hf <;> cases hf
    | some p => simp [outcome_bind, hp]

def fileText (v : Volume) (spelling : Text) (encoding : String) : Except Error String :=
  match v.fileData spelling with
  | .error e => .error e
  | .ok data =>
    if encoding.toList.contains '\x00' then .error .nullInEncoding
    else
      match Encoding.ofName? encoding with
      | some e => .ok (e.decode data)
      | none => if data.isEmpty then .ok "" else .error (.unknownEncoding encoding)

@[simp] theorem outcome_readText (spelling : Text) (encoding : String) (v : Volume) :
    outcome (readText spelling encoding) v = (v.fileText spelling encoding, v) := by
  unfold readText fileText
  rw [outcome_bind, outcome_readFile]
  cases v.fileData spelling with
  | error e => rfl
  | ok data =>
    by_cases hn : encoding.toList.contains '\x00' = true
    · simp only [hn, if_true]
      rfl
    · simp only [hn]
      cases Encoding.ofName? encoding with
      | some e => rfl
      | none => cases data.isEmpty <;> rfl

theorem outcome_silent (op : VolumeM Unit) (v : Volume) :
    outcome (silent op) v = ((outcome op v).1.map fun _ => .nothing, (outcome op v).2) := by
  unfold silent
  rw [outcome_bind]
  rcases outcome op v with ⟨r, t⟩
  cases r <;> rfl

def Operation.isAsking : Operation → Bool
  | .exists _ | .stat _ | .access _ _ | .readDirectory _ | .read _ _ => true
  | .write _ _ _ | .makeDirectory _ _ | .copyFile _ _ | .remove _ _ _ | .setTimes _ _
  | .setMode _ _ => false

theorem looks_perform (op : Operation) (h : op.isAsking = true) (now : Int) :
    Looks (op.perform now) := by
  cases op with
  | «exists» s => exact Looks.map (fun v => by rw [outcome_exists?]) _
  | stat s => exact Looks.map (fun v => by rw [outcome_stat]) _
  | access s request => exact fun v => by rw [Operation.perform, outcome_silent, outcome_access]
  | readDirectory s => exact Looks.map (fun v => by rw [outcome_readDirectory]) _
  | read s encoding =>
    cases encoding with
    | none => exact Looks.map (fun v => by rw [outcome_readFile]) _
    | some name => exact Looks.map (fun v => by rw [outcome_readText]) _
  | _ => cases h

end Volume

end MemoryShell
