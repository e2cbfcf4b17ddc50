import MemoryShell.Proofs.Tree.Leaves
import MemoryShell.Proofs.Volume.Refinement
import MemoryShell.Proofs.Text.Utf8
import MemoryShell.Volume.Snapshot

set_option autoImplicit false

namespace MemoryShell

def Shape.fresh : Shape → FlatEntry
  | .directory => .directory Stamp.directoryMode
  | .file data => .file Stamp.fileMode data

def FlatEntry.shape : FlatEntry → Shape
  | .directory _ => .directory
  | .file _ data => .file data

theorem Shape.shape_fresh (s : Shape) : s.fresh.shape = s := by
  cases s <;> rfl

namespace PathMap

/-- A map shows a content, made anew, at the paths in a set, and has no other paths. -/
structure Covers (m : PathMap) (content : Path → Option Shape) (R : Path → Prop) : Prop where
  there : ∀ {q}, R q → m.entry q = (content q).map Shape.fresh
  missing : ∀ {q}, ¬ R q → m.entry q = none

variable {m : PathMap} {content : Path → Option Shape} {R : Path → Prop} {p : Path}

theorem Covers.congr (h : m.Covers content R) {R' : Path → Prop} (hR : ∀ q, R q ↔ R' q) :
    m.Covers content R' where
  there hq := h.there ((hR _).mpr hq)
  missing hq := h.missing fun hq' => hq ((hR _).mp hq')

theorem Covers.entry_eq_directory (h : m.Covers content R) {q : Path} (hR : R q)
    (hq : content q = some .directory) : m.entry q = some (.directory Stamp.directoryMode) := by
  rw [h.there hR, hq]
  rfl

theorem Covers.withDirectories (h : m.Covers content R)
    (hdir : ∀ q, q <+: p → content q = some .directory) :
    m.isBlocked p = false ∧ (m.withDirectories p).Covers content fun q => R q ∨ q <+: p := by
  have hopen : m.isBlocked p = false := by
    rw [isBlocked, List.any_eq_false]
    intro q hq
    have hd := hdir q ((List.mem_inits q p).mp hq)
    by_cases hR : R q
    · simp [isFile, h.entry_eq_directory hR hd]
    · simp [isFile, h.missing hR]
  refine ⟨hopen, ⟨fun {q} hq => ?_, fun {q} hq => ?_⟩⟩
  · rw [entry_withDirectories hopen]
    by_cases hR : R q
    · rw [h.there hR]
      split
      · rename_i hmissing
        rw [hdir q hmissing.1] at hmissing
        cases hmissing.2
      · rfl
    · have hpre : q <+: p := hq.resolve_left hR
      rw [if_pos ⟨hpre, h.missing hR⟩, hdir q hpre]
      rfl
  · obtain ⟨hR, hpre⟩ := not_or.mp hq
    rw [entry_withDirectories hopen, if_neg fun hboth => hpre hboth.1, h.missing hR]

theorem Covers.write (h : m.Covers content R) {name : Name} {data : Bytes} (hR : R p)
    (hd : content p = some .directory) (hf : content (p ++ [name]) = some (.file data))
    (hnew : ¬ R (p ++ [name])) :
    ∃ m' : PathMap, m.write .replace (p ++ [name]) data = (.ok .nothing, m') ∧
      m'.Covers content fun q => R q ∨ q = p ++ [name] := by
  have hentry := h.entry_eq_directory hR hd
  have hparent : m.parent (p ++ [name]) = .ok Stamp.directoryMode := by
    rw [parent, if_neg (by simp), List.dropLast_concat, find, hentry]
  have hallowed : allows Stamp.directoryMode Access.write.flag = true := by decide
  refine ⟨m.put p name (.file Stamp.fileMode data), ?_, ⟨fun {q} hq => ?_, fun {q} hq => ?_⟩⟩
  · rw [PathMap.write, hparent, List.getLast?_concat, h.missing hnew]
    simp only [hallowed, if_true, List.dropLast_concat]
  · rw [entry_put ((m.isDirectory_iff p).mpr ⟨_, hentry⟩) (h.missing hnew)]
    split
    · rename_i heq
      rw [heq, hf]
      rfl
    · rename_i hne
      exact h.there (hq.resolve_right hne)
  · obtain ⟨hR', hne⟩ := not_or.mp hq
    rw [entry_put ((m.isDirectory_iff p).mpr ⟨_, hentry⟩) (h.missing hnew), if_neg hne,
      h.missing hR']

end PathMap
namespace Volume

open PathMap

/-- An open volume that shows a content, made anew, at the paths in a set. -/
def Holds (v : Volume) (content : Path → Option Shape) (R : Path → Prop) : Prop :=
  v.released = false ∧ ∃ m : PathMap, m.Depicts v.root ∧ m.Covers content R

variable {v : Volume} {content : Path → Option Shape} {R : Path → Prop} {p : Path}

theorem Matches.ran {x : VolumeM Unit} {m : PathMap}
    (h : Matches (outcome (silent x) v) (.ok .nothing, m)) :
    ∃ w, outcome x v = (.ok (), w) ∧ w.released = false ∧ m.Depicts w.root := by
  rw [outcome_silent] at h
  rcases hx : outcome x v with ⟨e | u, w⟩
  · have hanswer := h.answer
    rw [hx] at hanswer
    cases e <;> cases hanswer
  · rw [hx] at h
    exact ⟨w, rfl, h.isOpen, h.depicts⟩

theorem Holds.makeDirectories (h : v.Holds content R) {spelling : Text}
    (hp : Path.parse? spelling = some p) (hdir : ∀ q, q <+: p → content q = some .directory)
    (now : Int) :
    ∃ w, outcome (makeDirectories now spelling) v = (.ok (), w) ∧
      w.Holds content fun q => R q ∨ q <+: p := by
  obtain ⟨hr, m, hm, hcovers⟩ := h
  obtain ⟨hopen, hcovers'⟩ := hcovers.withDirectories hdir
  have hmatches := matches_makeDirectories hm hr hp now
  rw [PathMap.perform, if_neg (by simpa using hopen)] at hmatches
  obtain ⟨w, hw, hr', hm'⟩ := hmatches.ran
  exact ⟨w, hw, hr', _, hm', hcovers'⟩

theorem Holds.writeFile (h : v.Holds content R) {spelling : Text} {name : Name} {data : Bytes}
    (hp : Path.parse? spelling = some (p ++ [name])) (hR : R p)
    (hd : content p = some .directory) (hf : content (p ++ [name]) = some (.file data))
    (hnew : ¬ R (p ++ [name])) (now : Int) :
    ∃ w, outcome (writeFile now .replace spelling data) v = (.ok (), w) ∧
      w.Holds content fun q => R q ∨ q = p ++ [name] := by
  obtain ⟨hr, m, hm, hcovers⟩ := h
  obtain ⟨m', hwrite, hcovers'⟩ := hcovers.write hR hd hf hnew
  have hmatches := matches_writeFile hm hr hp .replace data now
  rw [hwrite] at hmatches
  obtain ⟨w, hw, hr', hm'⟩ := hmatches.ran
  exact ⟨w, hw, hr', m', hm', hcovers'⟩

end Volume

namespace Node

theorem content_above {node : Node} {p : Path} {name : Name} {q : Path} {s : Shape}
    (h : node.content (p ++ name :: q) = some s) : node.content p = some .directory := by
  obtain ⟨child, hw, -⟩ := content_eq_some.mp h
  obtain ⟨t, es, hp⟩ := exists_directory_of_walk_append hw
  exact content_of_walk hp

theorem content_of_prefix {node : Node} {p q : Path} {s : Shape} (h : node.content p = some s)
    (hq : q <+: p) (hne : q ≠ p) : node.content q = some .directory := by
  obtain ⟨r, rfl⟩ := hq
  cases r with
  | nil => exact absurd (List.append_nil q).symm hne
  | cons name r => exact content_above h

theorem content_eq_entry (node : Node) (p : Path) :
    node.content p = (node.entry p).map FlatEntry.shape := by
  rw [content, entry, Option.map_map]
  refine congrFun (congrArg _ (funext fun child => ?_)) _
  cases child <;> rfl

theorem content_of_entry {node : Node} {content : Path → Option Shape}
    (h : ∀ q, node.entry q = (content q).map Shape.fresh) (q : Path) : node.content q = content q := by
  rw [content_eq_entry node, h, Option.map_map]
  cases content q with
  | none => rfl
  | some s => exact congrArg some s.shape_fresh

theorem sameContent_of_entry {a b : Node}
    (h : ∀ q, a.entry q = (b.content q).map Shape.fresh) : a.SameContent b :=
  content_of_entry h

end Node

namespace Snapshot

open Volume

def value : Shape → Json
  | .directory => .null
  | .file data => .string (Utf8.decodeText data)

def field (l : Path × Shape) : Text × Json :=
  (l.1.text, value l.2)

def listed (root : Node) : List (Path × Shape) :=
  root.leaves.filter fun l => l.1 ≠ []

theorem mem_listed {root : Node} {l : Path × Shape} :
    l ∈ listed root ↔ l ∈ root.leaves ∧ l.1 ≠ [] := by
  rw [listed, List.mem_filter, decide_eq_true_iff]

theorem nodup_listed {root : Node} (ho : root.Everywhere Node.InOrder) :
    ((listed root).map Prod.fst).Nodup :=
  (Node.nodup_leaves ho).sublist (List.filter_sublist.map _)

theorem entries_eq_listed {root : Node} (h : root.isDirectory = true) :
    entries root = (listed root).map field := by
  rw [entries, listed, Node.leaves, List.filter_filterMap, List.map_filterMap]
  refine List.filterMap_congr fun e he => ?_
  obtain ⟨_ | ⟨name, p⟩, node⟩ := e
  · obtain rfl := Node.eq_of_nil_mem_nodes he
    rcases node with ⟨s, data⟩ | ⟨s, _ | ⟨f, es⟩⟩
    · cases h
    · rfl
    · rfl
  · rcases node with ⟨s, data⟩ | ⟨s, _ | ⟨f, es⟩⟩ <;> simp [field, value, Node.leaf?, entry?]

/-- What a field says about a path: that a directory is there, or a file that holds a text. -/
structure Item where
  path : Path
  text? : Option Text

def Item.field (i : Item) : Text × Json :=
  (i.path.text,
    match i.text? with
    | none => .null
    | some t => .string t)

def Item.shape? (i : Item) : Option Shape :=
  match i.text? with
  | none => some .directory
  | some t => (Utf8.encodeText? t).map .file

theorem Item.field_of_some {i : Item} {t : Text} (h : i.text? = some t) :
    i.field = (i.path.text, .string t) := by
  rw [field, h]

theorem Item.shape?_of_none {i : Item} (h : i.text? = none) : i.shape? = some .directory := by
  rw [shape?, h]

theorem Item.shape?_of_some {i : Item} {t : Text} (h : i.text? = some t) :
    i.shape? = (Utf8.encodeText? t).map .file := by
  rw [shape?, h]

def Item.ofLeaf (l : Path × Shape) : Item where
  path := l.1
  text? :=
    match l.2 with
    | .directory => none
    | .file data => some (Utf8.decodeText data)

theorem Item.field_ofLeaf (l : Path × Shape) : (ofLeaf l).field = Snapshot.field l := by
  rcases l with ⟨p, _ | data⟩ <;> rfl

theorem Item.shape?_ofLeaf (l : Path × Shape) : (ofLeaf l).shape? = some l.2 := by
  rcases l with ⟨p, _ | data⟩
  · rfl
  · simp [ofLeaf, shape?, Utf8.encodeText?_decodeText]

/-- Above whatever is there in a content there are directories. -/
def Closed (content : Path → Option Shape) : Prop :=
  ∀ ⦃p q s⦄, content p = some s → q <+: p → q ≠ p → content q = some .directory

theorem closed_content (root : Node) : Closed root.content :=
  fun _ _ _ => Node.content_of_prefix

variable {content : Path → Option Shape} {v : Volume}

/-- The paths that lead to one of some others, and the root. -/
def Reached (ps : List Path) (q : Path) : Prop :=
  q = [] ∨ ∃ p ∈ ps, q <+: p

instance (ps : List Path) (q : Path) : Decidable (Reached ps q) :=
  inferInstanceAs (Decidable (q = [] ∨ ∃ p ∈ ps, q <+: p))

theorem Reached.of_prefix {ps : List Path} {p q : Path} (h : Reached ps p) (hpre : q <+: p) :
    Reached ps q := by
  rcases h with rfl | ⟨r, hr, hp⟩
  · exact .inl (List.prefix_nil.mp hpre)
  · exact .inr ⟨r, hr, hpre.trans hp⟩

theorem reached_append_singleton (ps : List Path) (p q : Path) :
    Reached (ps ++ [p]) q ↔ Reached ps q ∨ q <+: p := by
  simp only [Reached, List.mem_append, List.mem_singleton, or_and_right, exists_or,
    exists_eq_left, or_assoc]

theorem not_prefix_dropLast {p : Path} (hp : p ≠ []) : ¬ p <+: p.dropLast := by
  intro h
  have hlen := h.length_le
  have hpos := List.length_pos_of_ne_nil hp
  rw [List.length_dropLast] at hlen
  omega

theorem loadEntry_directory (hclosed : Closed content) {R : Path → Prop} (hv : v.Holds content R)
    {p : Path} (hs : content p = some .directory) (now : Int) :
    ∃ w, outcome (loadEntry now p.text .null) v = (.ok (), w) ∧
      w.Holds content fun q => R q ∨ q <+: p := by
  have hdir : ∀ q, q <+: p → content q = some .directory := by
    intro q hq
    by_cases heq : q = p
    · rw [heq, hs]
    · exact hclosed hs hq heq
  obtain ⟨w, hw, hholds⟩ := hv.makeDirectories (Path.parse?_text p) hdir now
  refine ⟨w, ?_, hholds⟩
  unfold loadEntry
  rw [Path.parse?_text]
  simp only [outcome_adapt, hw]
  rfl

theorem loadEntry_file (hclosed : Closed content) {R : Path → Prop} (hv : v.Holds content R)
    {p : Path} (hp : p ≠ []) {t : Text} {data : Bytes} (ht : Utf8.encodeText? t = some data)
    (hs : content p = some (.file data)) (hnew : ¬ R p) (now : Int) :
    ∃ w, outcome (loadEntry now p.text (.string t)) v = (.ok (), w) ∧
      w.Holds content fun q => R q ∨ q <+: p := by
  obtain ⟨name, hsplit⟩ : ∃ name, p = p.dropLast ++ [name] :=
    ⟨p.getLast hp, (List.dropLast_append_getLast hp).symm⟩
  have hdir : ∀ q, q <+: p.dropLast → content q = some .directory := by
    intro q hq
    refine hclosed hs (hq.trans (List.dropLast_prefix p)) ?_
    rintro rfl
    exact not_prefix_dropLast hp hq
  -- first the directories above the file are made, then the file is written among them
  obtain ⟨u, hu, hholds⟩ := hv.makeDirectories (Path.parse?_text p.dropLast) hdir now
  have hfree : ¬ (R p ∨ p <+: p.dropLast) := by
    rintro (hR | hpre)
    · exact hnew hR
    · exact not_prefix_dropLast hp hpre
  have hparse : Path.parse? p.text = some (p.dropLast ++ [name]) := by
    rw [← hsplit, Path.parse?_text]
  have hfile : content (p.dropLast ++ [name]) = some (.file data) := by
    rw [← hsplit, hs]
  rw [hsplit] at hfree
  obtain ⟨w, hw, hr, m, hm, hcovers⟩ :=
    hholds.writeFile hparse (.inr (List.prefix_refl _)) (hdir _ (List.prefix_refl _)) hfile
      (by rwa [List.dropLast_concat] at hfree) now
  refine ⟨w, ?_, hr, m, hm, hcovers.congr fun q => ?_⟩
  · unfold loadEntry
    rw [Path.parse?_text]
    simp only [outcome_adapt, outcome_bind, hu, outcome_writeText, ht, hw]
    rfl
  · have hpre : q <+: p ↔ q = p.dropLast ++ [name] ∨ q <+: p.dropLast := by
      rw [← List.prefix_concat_iff, ← hsplit]
    rw [hpre, or_assoc, or_comm (a := q = _)]

/-- Items say what a content has, each about another path. The root is a directory. -/
structure Draws (content : Path → Option Shape) (items : List Item) : Prop where
  closed : Closed content
  root : content [] = some .directory
  distinct : (items.map Item.path).Nodup
  each : ∀ i ∈ items, ∃ s, i.shape? = some s ∧ content i.path = some s

theorem Draws.loadEntry {done rest : List Item} {i : Item} (h : Draws content (done ++ i :: rest))
    (hv : v.Holds content (Reached (done.map Item.path))) (now : Int) :
    ∃ w, outcome (loadEntry now i.field.1 i.field.2) v = (.ok (), w) ∧
      w.Holds content (Reached ((done ++ [i]).map Item.path)) := by
  obtain ⟨s, hshape, hs⟩ := h.each i (List.mem_append_right _ List.mem_cons_self)
  have hreached : ∀ q, Reached (done.map Item.path) q ∨ q <+: i.path ↔
      Reached ((done ++ [i]).map Item.path) q := by
    intro q
    rw [List.map_append, List.map_singleton, reached_append_singleton]
  suffices hload : ∃ w, outcome (Snapshot.loadEntry now i.field.1 i.field.2) v = (.ok (), w) ∧
      w.Holds content fun q => Reached (done.map Item.path) q ∨ q <+: i.path by
    obtain ⟨w, hw, hr, m, hm, hcovers⟩ := hload
    exact ⟨w, hw, hr, m, hm, hcovers.congr hreached⟩
  obtain ⟨p, _ | t⟩ := i
  · obtain rfl := Option.some.inj hshape
    exact loadEntry_directory h.closed hv hs now
  · obtain ⟨data, ht, rfl⟩ := Option.map_eq_some_iff.mp hshape
    have hp : p ≠ [] := by
      rintro rfl
      rw [h.root] at hs
      cases hs
    refine loadEntry_file h.closed hv hp ht hs ?_ now
    rintro (hnil | ⟨q, hq, hpre⟩)
    · exact hp hnil
    · obtain ⟨j, hj, rfl⟩ := List.mem_map.mp hq
      by_cases heq : p = j.path
      · -- the path of the file was listed before
        have hdistinct := h.distinct
        rw [List.map_append, List.nodup_append] at hdistinct
        exact hdistinct.2.2 j.path hq p List.mem_cons_self heq.symm
      · -- something lies below the file
        obtain ⟨s, -, hbelow⟩ := h.each j (List.mem_append_left _ hj)
        rw [h.closed hbelow hpre heq] at hs
        cases hs

theorem Draws.loadEntries {items done : List Item} (h : Draws content (done ++ items))
    (hv : v.Holds content (Reached (done.map Item.path))) (now : Int) :
    ∃ w, outcome (loadEntries now (items.map Item.field)) v = (.ok (), w) ∧
      w.Holds content (Reached ((done ++ items).map Item.path)) := by
  -- the items that are already there grow at their end
  induction items generalizing done v with
  | nil => exact ⟨v, rfl, by rwa [List.append_nil]⟩
  | cons i items ih =>
    obtain ⟨u, hu, hholds⟩ := h.loadEntry hv now
    have hsplit : done ++ [i] ++ items = done ++ i :: items := by simp
    rw [← hsplit] at h ⊢
    obtain ⟨w, hw, hholds'⟩ := ih h hholds
    refine ⟨w, ?_, hholds'⟩
    rw [List.map_cons, Snapshot.loadEntries, outcome_bind_ok hu]
    exact hw

theorem holds_empty (h : content [] = some .directory) (now : Int) :
    (Volume.empty now).Holds content (Reached []) := by
  have hroot : (Volume.empty now).root.isDirectory = true := rfl
  refine ⟨rfl, (Volume.empty now).root.pathMap hroot, Node.depicts_pathMap _ hroot,
    ⟨fun {q} hq => ?_, fun {q} hq => ?_⟩⟩
  · obtain rfl : q = [] := by simpa [Reached] using hq
    rw [h]
    rfl
  · obtain ⟨name, r, rfl⟩ := List.exists_cons_of_ne_nil fun h => hq (.inl h)
    show (Node.directory (.fresh Stamp.directoryMode now) []).entry (name :: r) = none
    rw [Node.entry_directory_cons]
    rfl

theorem toVolume_object (now : Int) (fields : List (Text × Json)) :
    toVolume now (.object fields) =
      match outcome (loadEntries now fields) (Volume.empty now) with
      | (.ok _, w) => .ok w
      | (.error e, _) => .error e := rfl

theorem Draws.toVolume {items : List Item} (h : Draws content items)
    (hall : ∀ q s, content q = some s → Reached (items.map Item.path) q) (now : Int) :
    ∃ w, toVolume now (.object (items.map Item.field)) = .ok w ∧ w.released = false ∧
      ∀ q, w.root.entry q = (content q).map Shape.fresh := by
  have hstart : Draws content ([] ++ items) := h
  obtain ⟨w, hw, hr, m, hm, hcovers⟩ := hstart.loadEntries (holds_empty h.root now) now
  refine ⟨w, ?_, hr, fun q => ?_⟩
  · rw [toVolume_object, hw]
  · rw [← hm q]
    by_cases hq : Reached (items.map Item.path) q
    · exact hcovers.there hq
    · rw [hcovers.missing hq]
      cases hc : content q with
      | none => rfl
      | some s => exact absurd (hall q s hc) hq

variable {root : Node}

theorem draws_listed (hd : root.isDirectory = true) (ho : root.Everywhere Node.InOrder) :
    Draws root.content ((listed root).map Item.ofLeaf) where
  closed := closed_content root
  root := by
    cases root with
    | file s data => cases hd
    | directory s es => exact Node.content_nil _
  distinct := by
    rw [List.map_map]
    exact nodup_listed ho
  each i hi := by
    obtain ⟨l, hl, rfl⟩ := List.mem_map.mp hi
    exact ⟨l.2, Item.shape?_ofLeaf l, Node.content_of_mem_leaves ho (mem_listed.mp hl).1⟩

theorem toVolume_entries (hd : root.isDirectory = true) (ho : root.Everywhere Node.InOrder)
    (now : Int) :
    ∃ w, toVolume now (.object (entries root)) = .ok w ∧ w.released = false ∧
      ∀ q, w.root.entry q = (root.content q).map Shape.fresh := by
  have hfields : entries root = ((listed root).map Item.ofLeaf).map Item.field := by
    rw [entries_eq_listed hd, List.map_map]
    exact List.map_congr_left fun l _ => (Item.field_ofLeaf l).symm
  rw [hfields]
  refine (draws_listed hd ho).toVolume (fun q s hs => ?_) now
  obtain ⟨child, hchild, -⟩ := Node.content_eq_some.mp hs
  obtain ⟨r, t, hl⟩ := Node.exists_leaf_append ho hchild
  by_cases hnil : q = []
  · exact .inl hnil
  · have hlisted : (q ++ r, t) ∈ listed root := mem_listed.mpr ⟨hl, by simp [hnil]⟩
    refine .inr ⟨q ++ r, ?_, List.prefix_append q r⟩
    rw [List.map_map]
    exact List.mem_map_of_mem hlisted

end Snapshot

end MemoryShell
