import MemoryShell.Isolate.Request
import MemoryShell.Proofs.Volume.Extension
import MemoryShell.Proofs.Volume.Invocation

set_option autoImplicit false

namespace MemoryShell

namespace FlatEntry

/-- Whether it is a file with the owner's bit for writing clear. -/
def isProtected : FlatEntry → Bool
  | .directory _ => false
  | .file mode _ => mode / Access.write.ownerBit % 2 = 0

/-- What may have become of an entry that is left intact. -/
structure Intact (e f : FlatEntry) : Prop where
  kind : f.kind = e.kind
  mode : f.mode = e.mode
  content : e.isProtected = true → f = e

theorem Intact.refl (e : FlatEntry) : Intact e e :=
  ⟨rfl, rfl, fun _ => rfl⟩

theorem Intact.trans {e f g : FlatEntry} (hef : Intact e f) (hfg : Intact f g) : Intact e g := by
  refine ⟨hfg.kind.trans hef.kind, hfg.mode.trans hef.mode, fun he => ?_⟩
  have hf : f = e := hef.content he
  have hg : g = f := hfg.content (hf ▸ he)
  exact hg.trans hf

end FlatEntry

namespace Node

/-- Whatever stands in a tree is intact in another one. -/
def Intact (x y : Node) : Prop :=
  ∀ p e, x.entry p = some e → ∃ f, y.entry p = some f ∧ e.Intact f

theorem Intact.refl (x : Node) : x.Intact x :=
  fun _ e he => ⟨e, he, .refl e⟩

theorem Intact.trans {x y z : Node} (hxy : x.Intact y) (hyz : y.Intact z) : x.Intact z := by
  intro p e he
  obtain ⟨f, hf, hef⟩ := hxy p e he
  obtain ⟨g, hg, hfg⟩ := hyz p f hf
  exact ⟨g, hg, hef.trans hfg⟩

theorem Intact.modify {x : Node} {p : Path} {f : Node → Node}
    (h : ∀ child, x.walk p = .ok child → child.Intact (f child)) : x.Intact (modify f p x) := by
  intro q e he
  by_cases hpq : p <+: q
  · obtain ⟨r, rfl⟩ := hpq
    rw [entry_append] at he
    obtain ⟨child, hchild, hr⟩ := Option.bind_eq_some_iff.mp he
    rw [entry_modify_append, hchild, Option.bind_some]
    exact h child (at?_eq_some.mp hchild) r e hr
  · rw [entry_modify_beside f hpq]
    exact ⟨e, he, .refl e⟩

theorem Extended.intact {x y : Node} (h : x.Extended y) : x.Intact y :=
  fun p e he => ⟨e, h p e he, .refl e⟩

theorem intact_file {s t : Stamp} {data new : Bytes} (hmode : t.mode = s.mode)
    (hdata : s.grants .write = false → new = data) : (file s data).Intact (file t new) := by
  intro p e he
  cases p with
  | nil =>
    obtain rfl := Option.some.inj ((entry_nil _).symm.trans he)
    refine ⟨.file t.mode new, entry_nil _, rfl, hmode, fun hprotected => ?_⟩
    have hgrants : s.grants .write = false := by
      rw [toEntry, FlatEntry.isProtected, decide_eq_true_eq] at hprotected
      rw [Stamp.grants, hprotected]
      rfl
    rw [toEntry, hmode, hdata hgrants]
  | cons name rest =>
    rw [entry_file_cons] at he
    cases he

end Node

namespace Volume

abbrev Intact (v w : Volume) : Prop :=
  v.root.Intact w.root

theorem intact_filled {v : Volume} {spelling : Text} {slot : Slot}
    (h : v.writable spelling = .ok slot) (now : Int) (mode : WriteMode) (data : Bytes) :
    v.Intact (v.filled now mode slot data) := by
  obtain ⟨hslot, hnode⟩ := writable_cases h
  have hat : v.root.at? slot.path = slot.node? := at?_of_slot hslot
  unfold filled
  rcases hnode with ⟨hfree, -⟩ | ⟨s, old, hfile, hgrants⟩
  · rw [hfree] at hat ⊢
    exact (extended_placed hat now _).intact
  · rw [hfile] at hat ⊢
    refine Node.Intact.modify fun child hw => ?_
    rw [Node.at?_eq_some.mpr hw] at hat
    obtain rfl := Option.some.inj hat
    exact Node.intact_file rfl fun hclear => by rw [hgrants] at hclear; cases hclear

theorem intact_writeFile (now : Int) (mode : WriteMode) (spelling : Text) (data : Bytes)
    (v : Volume) : v.Intact (outcome (writeFile now mode spelling data) v).2 := by
  rw [outcome_writeFile]
  cases hw : v.writable spelling with
  | error e => exact .refl _
  | ok slot => exact intact_filled hw now mode data

theorem intact_writeText (now : Int) (mode : WriteMode) (spelling t : Text) (v : Volume) :
    v.Intact (outcome (writeText now mode spelling t) v).2 := by
  rw [outcome_writeText]
  cases Utf8.encodeText? t with
  | none => exact .refl _
  | some data => exact intact_writeFile now mode spelling data v

theorem intact_perform {op : Operation} (h : op.isMild = true) (now : Int) (v : Volume) :
    v.Intact (outcome (op.perform now) v).2 := by
  cases op with
  | write mode s content =>
    rw [Operation.perform, outcome_silent]
    cases content with
    | octets data => exact intact_writeFile now mode s data v
    | text t => exact intact_writeText now mode s t v
  | makeDirectory s recursive =>
    cases recursive with
    | false =>
      rw [Operation.perform, outcome_silent]
      exact (extended_makeDirectory now s v).intact
    | true =>
      rw [Operation.perform, outcome_silent]
      exact (extended_makeDirectories now s v).intact
  | copyFile source destination =>
    rw [Operation.perform, outcome_silent, outcome_copyFile]
    cases v.fileData source with
    | error e => exact .refl _
    | ok data => exact intact_writeFile now .replace destination data v
  | remove s recursive force => cases h
  | setTimes s mtime =>
    rw [Operation.perform, outcome_silent]
    exact (extended_setTimes s mtime v).intact
  | setMode s mode => cases h
  | _ =>
    rw [looks_perform _ rfl now v]
    exact .refl _

end Volume

def Argument.seenFrom (directory : Text) : Argument → Argument
  | .value (.string t) =>
    match Path.resolve? directory t with
    | some p => .value (.string p.text)
    | none => .value (.string t)
  | a => a

namespace Request

theorem intact_call {name : String} (h : isAllowed name = true) (now : Int)
    (args : List Argument) (v : Volume) :
    v.Intact (outcome (Invocation.call .files now name args []) v).2 := by
  have hkeeps : Keeps (fun w => v.Intact w) (fun _ => True)
      (Invocation.call .files now name args []) :=
    Invocation.keeps_call (fun m hm a op hop w hw =>
      hw.trans (Volume.intact_perform (isMild_of_mayRun h hm hop) now w)) args []
  exact (hkeeps v (.refl _)).2

def argsFrom (directory : Text) (r : Request) : List Argument :=
  r.args.mapIdx fun i a =>
    if i < (if r.method = "copy_file" then 2 else 1) then a.seenFrom directory else a

theorem resolveArgument_eq {directory : Text} (habs : Path.isAbsolute directory = true)
    (a : Argument) : resolveArgument directory a = .ok (a.seenFrom directory) := by
  match a with
  | .value (.string t) =>
    obtain ⟨p, hp⟩ := Path.exists_resolve? habs t
    simp only [resolveArgument, Argument.seenFrom, hp]
  | .octets _ | .foreign _ | .value .null | .value (.bool _) | .value (.integer _) | .value (.real _)
  | .value (.array _) | .value (.object _) => rfl

theorem resolveArguments_eq {directory : Text} (habs : Path.isAbsolute directory = true) (n : Nat)
    (args : List Argument) :
    resolveArguments directory n args =
      .ok (args.mapIdx fun i a => if i < n then a.seenFrom directory else a) := by
  induction n generalizing args with
  | zero =>
    have hall : (args.mapIdx fun i a => if i < 0 then a.seenFrom directory else a) = args :=
      List.ext_getElem (by simp) (by simp)
    rw [resolveArguments, hall]
  | succ n ih =>
    cases args with
    | nil => rfl
    | cons a args =>
      rw [resolveArguments, resolveArgument_eq habs, ih]
      simp [List.mapIdx_cons, Except.map]

theorem outcome_answer_of_absolute {directory : Text} (habs : Path.isAbsolute directory = true)
    {r : Request} (h : isAllowed r.method = true) (now : Int) (v : Volume) :
    outcome (r.answer directory now) v =
      (.ok (reply (outcome (Invocation.call .files now r.method (r.argsFrom directory) []) v).1),
        (outcome (Invocation.call .files now r.method (r.argsFrom directory) []) v).2) :=
  outcome_answer_of_allowed h (resolveArguments_eq habs _ _) now v

theorem exists_outcome_answer {directory : Text} (habs : Path.isAbsolute directory = true)
    (r : Request) (now : Int) (v : Volume) :
    ∃ reply w, outcome (r.answer directory now) v = (.ok reply, w) ∧ v.Intact w := by
  cases h : isAllowed r.method with
  | false => exact ⟨r.denial, v, outcome_answer_of_not_allowed h directory now v, .refl _⟩
  | true =>
    exact ⟨_, _, outcome_answer_of_absolute habs h now v, intact_call h now _ v⟩

end Request

end MemoryShell
