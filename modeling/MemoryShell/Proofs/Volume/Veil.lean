import MemoryShell.Proofs.Tree.Veil
import MemoryShell.Proofs.Volume.Invocation

set_option autoImplicit false

namespace MemoryShell.Volume

open Node

def veil (v : Volume) : Volume :=
  { v with root := v.root.veil }

/-- Two volumes that differ only in hidden octets, of which they have equally many. -/
def LooksLike (v w : Volume) : Prop :=
  v.veil = w.veil

/-- Slots at which the same can be seen. -/
structure LikeSlot (a b : Slot) : Prop where
  directory : a.directory = b.directory
  name : a.name = b.name
  stamp : a.stamp = b.stamp
  entries : veilEntries a.entries = veilEntries b.entries

theorem LikeSlot.cases {a b : Slot} (h : LikeSlot a b) :
    (a.node? = none ∧ b.node? = none) ∨
      ∃ x y, a.node? = some x ∧ b.node? = some y ∧ x.veil = y.veil := by
  have hnode : a.node?.map Node.veil = b.node?.map Node.veil := by
    rw [Slot.node?, Slot.node?, ← find?_veilEntries, ← find?_veilEntries, h.entries, h.name]
  cases hx : a.node? with
  | none =>
    rw [hx, Option.map_none] at hnode
    exact .inl ⟨rfl, Option.map_eq_none_iff.mp hnode.symm⟩
  | some x =>
    rw [hx, Option.map_some] at hnode
    obtain ⟨y, hy, hxy⟩ := Option.map_eq_some_iff.mp hnode.symm
    exact .inr ⟨x, y, rfl, hy, hxy.symm⟩

namespace LooksLike

variable {v w : Volume}

theorem intro (hreleased : v.released = w.released) (hroot : v.root.veil = w.root.veil) :
    LooksLike v w := by
  rw [LooksLike, Volume.veil, Volume.veil, hreleased, hroot]

variable (h : LooksLike v w)

include h

theorem released : v.released = w.released := by
  have hveil : v.veil.released = w.veil.released := congrArg Volume.released h
  exact hveil

theorem root : v.root.veil = w.root.veil := by
  have hveil : v.veil.root = w.veil.root := congrArg Volume.root h
  exact hveil

theorem changed {f : Node → Node} (hf : Respectful f) (p : Path) :
    LooksLike (v.changed p f) (w.changed p f) :=
  .intro h.released (hf.modify p _ _ h.root)

theorem placed (now : Int) (p : Path) (name : Name) (new : Node) :
    LooksLike (v.placed now p name new) (w.placed now p name new) :=
  h.changed ((respectful_setTime _).comp (respectful_insert name new)) p

theorem emptied (now : Int) (p : Path) (name : Name) :
    LooksLike (v.emptied now p name) (w.emptied now p name) :=
  h.changed ((respectful_setTime _).comp (respectful_erase name)) p

theorem filled (now : Int) (mode : WriteMode) {a b : Slot} (hab : LikeSlot a b) (data : Bytes) :
    LooksLike (v.filled now mode a data) (w.filled now mode b data) := by
  unfold Volume.filled
  rcases hab.cases with ⟨ha, hb⟩ | ⟨x, y, ha, hb, -⟩
  · simp only [ha, hb, hab.directory, hab.name]
    exact h.placed now _ _ _
  · simp only [ha, hb, Slot.path, hab.directory, hab.name]
    exact h.changed ((respectful_setTime _).comp (respectful_setData mode data)) _

theorem walk (p : Path) :
    Agree (fun x y => x.veil = y.veil) (v.root.walk p) (w.root.walk p) := by
  have hmap : (v.root.walk p).map Node.veil = (w.root.walk p).map Node.veil := by
    rw [← walk_veil, ← walk_veil, h.root]
  exact Agree.of_map_eq hmap

theorem find (spelling : Text) :
    Agree (fun x y => x.veil = y.veil) (v.find spelling) (w.find spelling) := by
  unfold Volume.find
  rw [h.released]
  split
  · rfl
  · split
    · rfl
    · rename_i p _
      rcases (h.walk p).cases with ⟨x, y, hx, hy, hxy⟩ | ⟨e, hx, hy⟩
      · rw [hx, hy]
        exact hxy
      · rw [hx, hy]
        rfl

theorem slot (spelling : Text) : Agree LikeSlot (v.slot spelling) (w.slot spelling) := by
  unfold Volume.slot
  split
  · rfl
  · rename_i p _
    split
    · rfl
    · rcases (h.find (Path.text p.dropLast)).cases with ⟨x, y, hx, hy, hxy⟩ | ⟨e, hx, hy⟩
      · rw [hx, hy]
        rcases veil_cases hxy with ⟨s, a, b, rfl, rfl, -⟩ | ⟨s, es, fs, rfl, rfl, hentries⟩
        · rfl
        · exact ⟨rfl, rfl, rfl, hentries⟩
      · rw [hx, hy]
        rfl

theorem writable (spelling : Text) :
    Agree LikeSlot (v.writable spelling) (w.writable spelling) := by
  have hdemanded : ∀ {a b : Slot} (s : Stamp), LikeSlot a b →
      Agree LikeSlot ((demanded s Access.write.flag spelling).map fun _ => a)
        ((demanded s Access.write.flag spelling).map fun _ => b) := by
    intro a b s hab
    cases demanded s Access.write.flag spelling with
    | error e => rfl
    | ok _ => exact hab
  unfold Volume.writable
  rcases (h.slot spelling).cases with ⟨a, b, ha, hb, hab⟩ | ⟨e, ha, hb⟩
  · rw [ha, hb]
    rcases hab.cases with ⟨hx, hy⟩ | ⟨x, y, hx, hy, hxy⟩
    · simp only [hx, hy, hab.stamp]
      exact hdemanded _ hab
    · rcases veil_cases hxy with ⟨s, c, d, rfl, rfl, -⟩ | ⟨s, es, fs, rfl, rfl, -⟩
      · simp only [hx, hy]
        exact hdemanded s hab
      · simp only [hx, hy]
        rfl
  · rw [ha, hb]
    rfl

theorem fileData (spelling : Text) : Agree Eq (v.fileData spelling) (w.fileData spelling) := by
  unfold Volume.fileData
  rcases (h.find spelling).cases with ⟨x, y, hx, hy, hxy⟩ | ⟨e, hx, hy⟩
  · rw [hx, hy]
    rcases veil_cases hxy with ⟨s, a, b, rfl, rfl, hdata⟩ | ⟨s, es, fs, rfl, rfl, -⟩
    · simp only [demanded, Stamp.allows_flag]
      cases hread : s.grants .read with
      | true => exact (Stamp.veil_eq_iff.mp hdata).2 hread
      | false => rfl
    · rfl
  · rw [hx, hy]
    rfl

theorem fileText (spelling : Text) (encoding : String) :
    Agree Eq (v.fileText spelling encoding) (w.fileText spelling encoding) := by
  unfold Volume.fileText
  rcases (h.fileData spelling).cases with ⟨a, b, ha, hb, hab⟩ | ⟨e, ha, hb⟩
  · rw [ha, hb, hab]
    simp only
    split
    · rfl
    · split
      · rfl
      · split <;> rfl
  · rw [ha, hb]
    rfl

theorem occupied (spelling : Text) :
    Agree (fun a b => LikeSlot a.1 b.1 ∧ a.2.isDirectory = b.2.isDirectory) (v.occupied spelling)
      (w.occupied spelling) := by
  unfold Volume.occupied
  rcases (h.slot spelling).cases with ⟨a, b, ha, hb, hab⟩ | ⟨e, ha, hb⟩
  · rw [ha, hb]
    rcases hab.cases with ⟨hx, hy⟩ | ⟨x, y, hx, hy, hxy⟩
    · simp only [hx, hy]
      rfl
    · simp only [hx, hy]
      refine ⟨hab, ?_⟩
      rcases veil_cases hxy with ⟨s, c, d, rfl, rfl, -⟩ | ⟨s, es, fs, rfl, rfl, -⟩
      · rfl
      · rfl
  · rw [ha, hb]
    rfl

end LooksLike

theorem veiled_exists? (spelling : Text) :
    Coupled LooksLike Eq (exists? spelling) (exists? spelling) := by
  intro v w h
  rw [outcome_exists?, outcome_exists?]
  refine ⟨?_, h⟩
  rcases (h.find spelling).cases with ⟨x, y, hx, hy, -⟩ | ⟨e, hx, hy⟩
  · rw [hx, hy]
    rfl
  · rw [hx, hy]
    cases e with
    | file errno p => cases errno <;> rfl
    | _ => rfl

theorem veiled_stat (spelling : Text) : Coupled LooksLike Eq (stat spelling) (stat spelling) := by
  intro v w h
  rw [outcome_stat, outcome_stat]
  refine ⟨?_, h⟩
  rcases (h.find spelling).cases with ⟨x, y, hx, hy, hxy⟩ | ⟨e, hx, hy⟩
  · rw [hx, hy]
    rcases veil_cases hxy with ⟨s, a, b, rfl, rfl, hdata⟩ | ⟨s, es, fs, rfl, rfl, -⟩
    · have hlength : a.length = b.length := (Stamp.veil_eq_iff.mp hdata).1
      rw [Except.map, Except.map, Stat.ofNode, Stat.ofNode, hlength]
      rfl
    · rfl
  · rw [hx, hy]
    rfl

theorem veiled_access (spelling : Text) (request : Int) :
    Coupled LooksLike Eq (access spelling request) (access spelling request) := by
  intro v w h
  rw [outcome_access, outcome_access]
  refine ⟨?_, h⟩
  rcases (h.find spelling).cases with ⟨x, y, hx, hy, hxy⟩ | ⟨e, hx, hy⟩
  · rw [hx, hy]
    have hstamp : x.stamp = y.stamp := by
      rcases veil_cases hxy with ⟨s, a, b, rfl, rfl, -⟩ | ⟨s, es, fs, rfl, rfl, -⟩
      · rfl
      · rfl
    simp only [Except.bind, hstamp]
    cases demanded y.stamp request spelling <;> rfl
  · rw [hx, hy]
    rfl

theorem veiled_readDirectory (spelling : Text) :
    Coupled LooksLike Eq (readDirectory spelling) (readDirectory spelling) := by
  intro v w h
  rw [outcome_readDirectory, outcome_readDirectory]
  refine ⟨?_, h⟩
  rcases (h.find spelling).cases with ⟨x, y, hx, hy, hxy⟩ | ⟨e, hx, hy⟩
  · rw [hx, hy]
    rcases veil_cases hxy with ⟨s, a, b, rfl, rfl, -⟩ | ⟨s, es, fs, rfl, rfl, hentries⟩
    · rfl
    · have hnames : Entries.names es = Entries.names fs := by
        rw [← names_veilEntries, hentries, names_veilEntries]
      exact hnames
  · rw [hx, hy]
    rfl

theorem veiled_readFile (spelling : Text) :
    Coupled LooksLike Eq (readFile spelling) (readFile spelling) := by
  intro v w h
  rw [outcome_readFile, outcome_readFile]
  exact ⟨h.fileData spelling, h⟩

theorem veiled_readText (spelling : Text) (encoding : String) :
    Coupled LooksLike Eq (readText spelling encoding) (readText spelling encoding) := by
  intro v w h
  rw [outcome_readText, outcome_readText]
  exact ⟨h.fileText spelling encoding, h⟩

theorem veiled_writeFile (now : Int) (mode : WriteMode) (spelling : Text) (data : Bytes) :
    Coupled LooksLike Eq (writeFile now mode spelling data) (writeFile now mode spelling data) := by
  intro v w h
  rw [outcome_writeFile, outcome_writeFile]
  rcases (h.writable spelling).cases with ⟨a, b, ha, hb, hab⟩ | ⟨e, ha, hb⟩
  · rw [ha, hb]
    exact ⟨rfl, h.filled now mode hab data⟩
  · rw [ha, hb]
    exact ⟨rfl, h⟩

theorem veiled_writeText (now : Int) (mode : WriteMode) (spelling t : Text) :
    Coupled LooksLike Eq (writeText now mode spelling t) (writeText now mode spelling t) := by
  unfold writeText
  split
  · exact Coupled.throw _
  · exact veiled_writeFile now mode spelling _

theorem veiled_copyFile (now : Int) (source destination : Text) :
    Coupled LooksLike Eq (copyFile now source destination) (copyFile now source destination) := by
  refine (veiled_readFile source).bind fun data other hdata => ?_
  subst hdata
  exact veiled_writeFile now .replace destination data

theorem veiled_makeDirectory (now : Int) (spelling : Text) :
    Coupled LooksLike Eq (makeDirectory now spelling) (makeDirectory now spelling) := by
  intro v w h
  rw [outcome_makeDirectory, outcome_makeDirectory]
  rcases (h.slot spelling).cases with ⟨a, b, ha, hb, hab⟩ | ⟨e, ha, hb⟩
  · rw [ha, hb]
    rcases hab.cases with ⟨hx, hy⟩ | ⟨x, y, hx, hy, -⟩
    · simp only [hx, hy, hab.stamp, hab.directory, hab.name]
      cases demanded b.stamp Access.write.flag spelling with
      | error e => exact ⟨rfl, h⟩
      | ok _ => exact ⟨rfl, h.placed now _ _ _⟩
    · simp only [hx, hy]
      exact ⟨rfl, h⟩
  · rw [ha, hb]
    exact ⟨rfl, h⟩

theorem veiled_makeBelow (now : Int) (spelling : Text) (rest above : Path) :
    Coupled LooksLike Eq (makeBelow now spelling above rest)
      (makeBelow now spelling above rest) := by
  induction rest generalizing above with
  | nil => exact Coupled.pure rfl
  | cons name rest ih =>
    intro v w h
    rw [outcome_makeBelow_cons, outcome_makeBelow_cons, Node.at?, Node.at?]
    rcases (h.walk (above ++ [name])).cases with ⟨x, y, hx, hy, hxy⟩ | ⟨e, hx, hy⟩
    · rw [hx, hy]
      rcases veil_cases hxy with ⟨s, a, b, rfl, rfl, -⟩ | ⟨s, es, fs, rfl, rfl, -⟩
      · exact ⟨rfl, h⟩
      · exact ih (above ++ [name]) v w h
    · rw [hx, hy]
      exact ih (above ++ [name]) _ _ (h.placed now above name _)

theorem veiled_makeDirectories (now : Int) (spelling : Text) :
    Coupled LooksLike Eq (makeDirectories now spelling) (makeDirectories now spelling) := by
  intro v w h
  rw [outcome_makeDirectories, outcome_makeDirectories, h.released]
  split
  · exact ⟨rfl, h⟩
  · split
    · exact ⟨rfl, h⟩
    · exact veiled_makeBelow now spelling _ [] v w h

theorem veiled_remove (now : Int) (spelling : Text) (recursive force : Bool) :
    Coupled LooksLike Eq (remove now spelling recursive force)
      (remove now spelling recursive force) := by
  intro v w h
  rw [outcome_remove, outcome_remove]
  rcases (h.occupied spelling).cases with ⟨a, b, ha, hb, hab, hkind⟩ | ⟨e, ha, hb⟩
  · rw [ha, hb]
    simp only [hkind, hab.directory, hab.name]
    split
    · exact ⟨rfl, h⟩
    · exact ⟨rfl, h.emptied now _ _⟩
  · rw [ha, hb]
    cases e with
    | file errno p =>
      cases errno with
      | noEntry => cases force <;> exact ⟨rfl, h⟩
      | _ => exact ⟨rfl, h⟩
    | _ => exact ⟨rfl, h⟩

theorem veiled_setTimes (spelling : Text) (mtime : Json) :
    Coupled LooksLike Eq (setTimes spelling mtime) (setTimes spelling mtime) := by
  intro v w h
  rw [outcome_setTimes, outcome_setTimes]
  rcases (h.find spelling).cases with ⟨x, y, hx, hy, -⟩ | ⟨e, hx, hy⟩
  · rw [hx, hy]
    exact ⟨rfl, h.changed (respectful_setTime mtime) _⟩
  · rw [hx, hy]
    exact ⟨rfl, h⟩

theorem veiled_silent {op : VolumeM Unit} (h : Coupled LooksLike Eq op op) :
    Coupled LooksLike Eq (silent op) (silent op) :=
  h.bind fun _ _ _ => Coupled.pure rfl

theorem veiled_perform {op : Operation} (h : op.isMild = true) (now : Int) :
    Coupled LooksLike Eq (op.perform now) (op.perform now) := by
  cases op with
  | «exists» s => exact (veiled_exists? s).map fun _ _ h => congrArg Value.flag h
  | stat s => exact (veiled_stat s).map fun _ _ h => congrArg Value.stat h
  | access s request => exact veiled_silent (veiled_access s request)
  | readDirectory s => exact (veiled_readDirectory s).map fun _ _ h => congrArg Value.names h
  | read s encoding =>
    cases encoding with
    | none => exact (veiled_readFile s).map fun _ _ h => congrArg Value.octets h
    | some name => exact (veiled_readText s name).map fun _ _ h => congrArg Value.text h
  | write mode s content =>
    cases content with
    | text t => exact veiled_silent (veiled_writeText now mode s t)
    | octets data => exact veiled_silent (veiled_writeFile now mode s data)
  | makeDirectory s recursive =>
    cases recursive with
    | false => exact veiled_silent (veiled_makeDirectory now s)
    | true => exact veiled_silent (veiled_makeDirectories now s)
  | copyFile source destination => exact veiled_silent (veiled_copyFile now source destination)
  | remove s recursive force => cases h
  | setTimes s mtime => exact veiled_silent (veiled_setTimes s mtime)
  | setMode s mode => cases h

theorem alike_looksLike : Invocation.Alike LooksLike where
  released h := h.released
  find h s := (h.find s).mono fun _ _ _ => trivial
  writable h s := (h.writable s).mono fun a b hab => by
    rcases hab.cases with ⟨ha, hb⟩ | ⟨x, y, ha, hb, -⟩
    · rw [ha, hb]
    · rw [ha, hb]
      rfl
  fileData h s := h.fileData s

end MemoryShell.Volume
