import MemoryShell.Invocation.Basic
import MemoryShell.Proofs.Volume.FlatView
import MemoryShell.Proofs.Volume.Run

/-!
A failing operation changes nothing. Most operations look at everything they depend on before their
only change. Making a directory together with the missing ones above it changes the tree as it goes;
but below a directory that was just made nothing stands, and no file is met there any more.
-/

set_option autoImplicit false

namespace MemoryShell

namespace Volume

theorem looks_ensureOpen : Looks ensureOpen := fun v => by rw [outcome_ensureOpen]

theorem looks_locate (spelling : Text) : Looks (locate spelling) :=
  fun v => by rw [outcome_locate]

theorem looks_lookup (spelling : Text) : Looks (lookup spelling) :=
  fun v => by rw [outcome_lookup]

theorem looks_slotOf (spelling : Text) : Looks (slotOf spelling) :=
  fun v => by rw [outcome_slotOf]

theorem looks_demand (s : Stamp) (request : Int) (spelling : Text) :
    Looks (demand s request spelling) :=
  fun v => by rw [outcome_demand]

theorem looks_readFile (spelling : Text) : Looks (readFile spelling) :=
  fun v => by rw [outcome_readFile]

theorem looks_writableSlot (spelling : Text) : Looks (writableSlot spelling) :=
  fun v => by rw [outcome_writableSlot]

theorem allOrNothing_change (p : Path) (f : Node → Node) : AllOrNothing (change p f) :=
  .of_ok fun _ => ⟨(), rfl⟩

theorem allOrNothing_writeFile (now : Int) (mode : WriteMode) (spelling : Text) (data : Bytes) :
    AllOrNothing (writeFile now mode spelling data) :=
  .bind_looks (looks_writableSlot spelling) fun slot =>
    .of_ok fun v => ⟨(), by rw [outcome_store]⟩

theorem allOrNothing_writeText (now : Int) (mode : WriteMode) (spelling t : Text) :
    AllOrNothing (writeText now mode spelling t) := by
  unfold writeText
  split
  · exact .throw _
  · exact allOrNothing_writeFile now mode spelling _

theorem allOrNothing_makeDirectory (now : Int) (spelling : Text) :
    AllOrNothing (makeDirectory now spelling) := by
  refine .bind_looks (looks_slotOf spelling) fun slot => ?_
  split
  · exact .throw _
  · exact .bind_looks (looks_demand _ _ _) fun _ => allOrNothing_change _ _

section

variable (now : Int) (spelling : Text)

theorem at?_below_placed (v : Volume) (above : Path) (name next : Name) :
    (v.placed now above name (.newDirectory now)).root.at? (above ++ [name] ++ [next]) = none := by
  have hbelow : (above ++ [name] ++ [next] : Path) = above ++ [name, next] := by simp
  rw [placed, changed, hbelow, Node.at?, Node.walk_modify_append]
  rcases v.root.walk above with e | (⟨s, data⟩ | ⟨s, es⟩)
  · rfl
  · rfl
  · show ((Node.directory { s with mtime := .integer now }
      (Entries.insert es name (.newDirectory now))).walk [name, next]).toOption = none
    rw [Node.walk_directory_cons, Entries.find?_insert_self]
    rfl

theorem makeBelow_of_bare (rest : Path) {above : Path} {v : Volume}
    (hbare : ∀ name, v.root.at? (above ++ [name]) = none) :
    (outcome (makeBelow now spelling above rest) v).1 = .ok () := by
  induction rest generalizing above v with
  | nil => rfl
  | cons name rest ih =>
    rw [outcome_makeBelow_cons, hbare name]
    exact ih fun next => at?_below_placed now v above name next

theorem allOrNothing_makeBelow (rest above : Path) :
    AllOrNothing (makeBelow now spelling above rest) := by
  induction rest generalizing above with
  | nil => exact .of_ok fun _ => ⟨(), rfl⟩
  | cons name rest ih =>
    intro v e he
    rw [outcome_makeBelow_cons] at he ⊢
    rcases hat : v.root.at? (above ++ [name]) with _ | (_ | _)
    · have hmade := makeBelow_of_bare now spelling rest
        fun next => at?_below_placed now v above name next
      simp only [hat, hmade] at he
      cases he
    · rfl
    · rw [hat] at he
      exact ih _ v e he

theorem allOrNothing_makeDirectories : AllOrNothing (makeDirectories now spelling) :=
  .bind_looks looks_ensureOpen fun _ =>
    .bind_looks (looks_locate spelling) fun p => allOrNothing_makeBelow now spelling p []

theorem outcome_makeBelow_append {v : Volume} (above : Path) {before : Path} (rest : Path)
    {s : Stamp} {es : Entries} (hw : v.root.walk (above ++ before) = .ok (.directory s es)) :
    outcome (makeBelow now spelling above (before ++ rest)) v =
      outcome (makeBelow now spelling (above ++ before) rest) v := by
  induction before generalizing above with
  | nil => rw [List.append_nil, List.nil_append]
  | cons next before ih =>
    have hsplit : above ++ next :: before = above ++ [next] ++ before := by simp
    rw [hsplit] at hw ⊢
    obtain ⟨t, fs, hnext⟩ : ∃ t fs, v.root.walk (above ++ [next]) = .ok (.directory t fs) := by
      cases before with
      | nil => exact ⟨s, es, by simpa using hw⟩
      | cons m q => exact Node.exists_directory_of_walk_append hw
    rw [List.cons_append, outcome_makeBelow_cons, Node.at?_eq_some.mpr hnext]
    exact ih _ hw

theorem outcome_makeBelow_file {v : Volume} {before rest : Path} {name : Name} {s : Stamp}
    {data : Bytes} (hw : v.root.walk (before ++ [name]) = .ok (.file s data)) :
    outcome (makeBelow now spelling [] (before ++ name :: rest)) v =
      (.error (.file .notDirectory spelling), v) := by
  obtain ⟨t, es, habove⟩ := Node.exists_directory_of_walk_append hw
  rw [outcome_makeBelow_append now spelling [] (name :: rest) habove, List.nil_append,
    outcome_makeBelow_cons, Node.at?_eq_some.mpr hw]

end

theorem outcome_makeDirectories_file (now : Int) {v : Volume} (hopen : v.released = false)
    {spelling : Text} {before rest : Path} {name : Name}
    (hp : Path.parse? spelling = some (before ++ name :: rest)) {s : Stamp} {data : Bytes}
    (hw : v.root.walk (before ++ [name]) = .ok (.file s data)) :
    outcome (makeDirectories now spelling) v = (.error (.file .notDirectory spelling), v) := by
  rw [outcome_makeDirectories, hopen, hp]
  exact outcome_makeBelow_file now spelling hw

theorem allOrNothing_copyFile (now : Int) (source destination : Text) :
    AllOrNothing (copyFile now source destination) :=
  .bind_looks (looks_readFile source) fun data =>
    allOrNothing_writeFile now .replace destination data

theorem allOrNothing_remove (now : Int) (spelling : Text) (recursive force : Bool) :
    AllOrNothing (remove now spelling recursive force) := by
  have hlooks : Looks (attempt (filledSlot spelling)) :=
    Looks.attempt fun v => by rw [outcome_filledSlot]
  refine .bind_looks hlooks fun r => ?_
  -- the failure that was caught is either forgiven or thrown again
  split
  · split
    · exact .of_looks (.pure ())
    · exact .throw _
  · exact .throw _
  · split
    · exact .throw _
    · exact allOrNothing_change _ _

theorem allOrNothing_setTimes (spelling : Text) (mtime : Json) :
    AllOrNothing (setTimes spelling mtime) :=
  .bind_looks (looks_lookup spelling) fun _ =>
    .bind_looks (looks_locate spelling) fun p => allOrNothing_change p _

theorem allOrNothing_setMode (spelling : Text) (mode : Int) : AllOrNothing (setMode spelling mode) :=
  .bind_looks (looks_lookup spelling) fun _ =>
    .bind_looks (looks_locate spelling) fun p => allOrNothing_change p _

theorem allOrNothing_silent {op : VolumeM Unit} (h : AllOrNothing op) : AllOrNothing (silent op) :=
  h.bind_pure _

theorem allOrNothing_perform (now : Int) (op : Operation) : AllOrNothing (op.perform now) := by
  cases op with
  | write mode s content =>
    cases content with
    | text t => exact allOrNothing_silent (allOrNothing_writeText now mode s t)
    | octets data => exact allOrNothing_silent (allOrNothing_writeFile now mode s data)
  | makeDirectory s recursive =>
    cases recursive with
    | false => exact allOrNothing_silent (allOrNothing_makeDirectory now s)
    | true => exact allOrNothing_silent (allOrNothing_makeDirectories now s)
  | copyFile source destination =>
    exact allOrNothing_silent (allOrNothing_copyFile now source destination)
  | remove s recursive force =>
    exact allOrNothing_silent (allOrNothing_remove now s recursive force)
  | setTimes s mtime => exact allOrNothing_silent (allOrNothing_setTimes s mtime)
  | setMode s mode => exact allOrNothing_silent (allOrNothing_setMode s mode)
  | _ => exact .of_looks (looks_perform _ rfl now)

end Volume

namespace Invocation

open Volume

theorem allOrNothing_run (now : Int) (op : Operation) : AllOrNothing (run now op) :=
  (allOrNothing_perform now op).adapt _

theorem looks_spelling (a : Argument) : Looks (spelling a) := by
  unfold spelling
  split
  · exact .pure _
  · exact .throw _
  · exact .throw _
  · exact .throw _

theorem looks_lookupSpelling (a : Argument) : Looks (lookupSpelling a) :=
  (looks_ensureOpen.adapt _).bind fun _ => looks_spelling a

theorem looks_bits (path : Text) (a : Argument) : Looks (bits path a) := by
  unfold bits
  split
  · exact .pure _
  · exact ((looks_lookup path).adapt _).bind fun _ => .throw _

theorem allOrNothing_writeOther (now : Int) (mode : WriteMode) (path : Argument) (kind : String)
    (octets : Except Fault Bytes) : AllOrNothing (writeOther now mode path kind octets) := by
  refine .bind_looks (looks_spelling path) fun p => ?_
  refine .bind_looks ((looks_writableSlot p).adapt _) fun slot => ?_
  split
  · exact allOrNothing_run now _
  · exact .throw _

theorem allOrNothing_writeAny (now : Int) (mode : WriteMode) (path content : Argument) :
    AllOrNothing (writeAny now mode path content) := by
  unfold writeAny
  split
  · split
    · exact .throw _
    · exact .bind_looks (looks_spelling path) fun _ => allOrNothing_run now _
  · exact .bind_looks (looks_spelling path) fun _ => allOrNothing_run now _
  · exact allOrNothing_writeOther now mode path _ _
  · exact allOrNothing_writeOther now mode path _ _

theorem allOrNothing_readAs (now : Int) (path encoding : Argument) :
    AllOrNothing (readAs now path encoding) := by
  unfold readAs
  split
  · exact .bind_looks (looks_lookupSpelling path) fun _ => allOrNothing_run now _
  · exact .bind_looks (looks_lookupSpelling path) fun _ => allOrNothing_run now _
  · refine .bind_looks (looks_lookupSpelling path) fun p => ?_
    exact .bind_looks ((looks_readFile p).adapt _) fun _ => .throw _

theorem allOrNothing_perform (now : Int) (i : Invocation) : AllOrNothing (i.perform now) := by
  have hone : ∀ (f : Text → Operation) (a : Argument),
      AllOrNothing (lookupSpelling a >>= fun s => run now (f s)) :=
    fun f a => .bind_looks (looks_lookupSpelling a) fun s => allOrNothing_run now (f s)
  have hplain : ∀ (f : Text → Operation) (a : Argument),
      AllOrNothing (spelling a >>= fun s => run now (f s)) :=
    fun f a => .bind_looks (looks_spelling a) fun s => allOrNothing_run now (f s)
  have hbits : ∀ (f : Text → Int → Operation) (a b : Argument),
      AllOrNothing (lookupSpelling a >>= fun s => bits s b >>= fun n => run now (f s n)) :=
    fun f a b => .bind_looks (looks_lookupSpelling a) fun s =>
      .bind_looks (looks_bits s b) fun n => allOrNothing_run now (f s n)
  cases i with
  | «exists» path => exact hone _ path
  | stat path => exact hone _ path
  | access path request => exact hbits _ path request
  | readDirectory path => exact hone _ path
  | read path encoding => exact allOrNothing_readAs now path encoding
  | write mode path content => exact allOrNothing_writeAny now mode path content
  | makeDirectory path recursive =>
    rw [perform]
    split
    · exact hone _ path
    · exact hplain _ path
  | copyFile source destination =>
    refine .bind_looks (looks_lookupSpelling source) fun p => ?_
    refine .bind_looks ((looks_readFile p).adapt _) fun data => ?_
    exact hplain _ destination
  | remove path recursive force => exact hplain _ path
  | setTimes path mtime => exact hone _ path
  | setMode path mode => exact hbits _ path mode

theorem allOrNothing_call (r : Receiver) (now : Int) (method : String) (placed : List Argument)
    (named : Assignment) : AllOrNothing (call r now method placed named) := by
  unfold call
  split
  · exact .throw _
  · split
    · exact .throw _
    · exact allOrNothing_perform now _

end Invocation

namespace Volume

/-- An operation that fails leaves the volume exactly as it was, and so does a method called by its
name with arguments of any kind. Making a directory below a file, together with what is missing
above it, fails and makes nothing. -/
theorem eq_of_operation_fails (now : Int) (v : Volume) :
    (∀ (op : Operation) e, (outcome (op.perform now) v).1 = .error e →
      (outcome (op.perform now) v).2 = v) ∧
    (∀ r method placed named e,
      (outcome (Invocation.call r now method placed named) v).1 = .error e →
        (outcome (Invocation.call r now method placed named) v).2 = v) ∧
    ∀ spelling before name rest s data, v.released = false →
      Path.parse? spelling = some (before ++ name :: rest) →
      v.root.walk (before ++ [name]) = .ok (.file s data) →
        outcome ((Operation.makeDirectory spelling true).perform now) v =
          (.error (.file .notDirectory spelling), v) := by
  refine ⟨fun op e => allOrNothing_perform now op v e,
    fun r method placed named e => Invocation.allOrNothing_call r now method placed named v e,
    fun spelling before name rest s data hopen hp hw => ?_⟩
  rw [Operation.perform, outcome_silent, outcome_makeDirectories_file now hopen hp hw]
  rfl

/-- A file stands in the way of directories below it. -/
theorem eq_of_operation_fails_below_file :
    let v := (outcome (writeFile 0 .replace (.ofString "/f") [104]) (empty 0)).2
    outcome ((Operation.makeDirectory (.ofString "/f/x/y") true).perform 0) v =
        (.error (.file .notDirectory (.ofString "/f/x/y")), v) ∧
      (outcome ((Operation.copyFile (.ofString "/f") (.ofString "/x/y")).perform 0) v).2 = v ∧
      (outcome (Invocation.call .volume 0 "chmod" [.value (.ofString "/x")] []) v).2 = v := by
  intro v
  obtain ⟨hoperation, hcall, hbelow⟩ := eq_of_operation_fails 0 v
  refine ⟨hbelow _ [] _ _ _ _ rfl rfl rfl, hoperation _ (.file .noEntry (.ofString "/x")) ?_,
    hcall _ _ _ _ (.fault (.missing "Volume.chmod" ["mode"])) ?_⟩
  · rfl
  · rfl

end Volume

end MemoryShell
