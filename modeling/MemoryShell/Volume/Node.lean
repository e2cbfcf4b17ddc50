import MemoryShell.Json.Value
import MemoryShell.Path.Basic
import MemoryShell.Volume.Error

/-!
The tree of a volume. A directory keeps its entries sorted by name. Walking down a path fails at the
first prefix that is missing or is a file; changing a node leaves every other path alone. Access goes by
the owner's mode bits: a request is a number whose three low bits ask for reading, writing and executing,
and it is allowed if the mode grants each access that it asks for.
-/

set_option autoImplicit false

namespace MemoryShell

/-- The mode bits and the times of a node. The time of the last change may be set to a value of any
kind. -/
structure Stamp where
  mode : Nat
  mtime : Json
  ctime : Int

def Stamp.fileMode : Nat := 0o666

def Stamp.directoryMode : Nat := 0o777

def Stamp.fresh (mode : Nat) (now : Int) : Stamp :=
  ⟨mode, .integer now, now⟩

/-- A way to use a node. -/
inductive Access
  | read
  | write
  | execute

def Access.flag : Access → Int
  | .read => 4
  | .write => 2
  | .execute => 1

def Access.ownerBit : Access → Nat
  | .read => 0o400
  | .write => 0o200
  | .execute => 0o100

def Access.askedBy (a : Access) (request : Int) : Bool :=
  request / a.flag % 2 = 1

def Stamp.grants (s : Stamp) (a : Access) : Bool :=
  s.mode / a.ownerBit % 2 = 1

def Stamp.allows (s : Stamp) (request : Int) : Bool :=
  [Access.read, .write, .execute].all fun a => !a.askedBy request || s.grants a

/-- A file or a directory. -/
inductive Node
  | file (stamp : Stamp) (data : Bytes)
  | directory (stamp : Stamp) (entries : List (Name × Node))

abbrev Entries := List (Name × Node)

namespace Entries

def find? : Entries → Name → Option Node
  | [], _ => none
  | (n, x) :: es, name => if n = name then some x else find? es name

/-- The entries with a node under a name, in its sorted place. -/
def insert : Entries → Name → Node → Entries
  | [], name, node => [(name, node)]
  | (n, x) :: es, name, node =>
    if n = name then (name, node) :: es
    else if name.before n then (name, node) :: (n, x) :: es
    else (n, x) :: insert es name node

def erase (es : Entries) (name : Name) : Entries :=
  es.filter fun e => e.1 ≠ name

def update (es : Entries) (name : Name) (f : Node → Node) : Entries :=
  es.map fun e => if e.1 = name then (e.1, f e.2) else e

theorem find?_insert_self (es : Entries) (name : Name) (node : Node) :
    find? (insert es name node) name = some node := by
  induction es with
  | nil => simp [insert, find?]
  | cons e es ih =>
    obtain ⟨n, x⟩ := e
    by_cases h : n = name
    · simp [insert, find?, h]
    · by_cases hb : name.before n
      · simp [insert, find?, h, hb]
      · simp [insert, find?, h, hb, ih]

theorem find?_insert_of_ne (es : Entries) {name other : Name} (node : Node)
    (hne : name ≠ other) : find? (insert es name node) other = find? es other := by
  induction es with
  | nil => simp [insert, find?, hne]
  | cons e es ih =>
    obtain ⟨n, x⟩ := e
    by_cases h : n = name
    · subst h
      simp [insert, find?, hne]
    · by_cases hb : name.before n
      · simp [insert, find?, h, hb, hne]
      · simp [insert, find?, h, hb, ih]

theorem find?_erase_self (es : Entries) (name : Name) : find? (erase es name) name = none := by
  induction es with
  | nil => rfl
  | cons e es ih =>
    obtain ⟨n, x⟩ := e
    by_cases h : n = name
    · simpa [erase, h] using ih
    · simpa [erase, find?, h] using ih

theorem find?_update (es : Entries) (name other : Name) (f : Node → Node) :
    find? (update es name f) other =
      if name = other then (find? es other).map f else find? es other := by
  induction es with
  | nil => simp [update, find?]
  | cons e es ih =>
    obtain ⟨n, x⟩ := e
    by_cases hn : n = other
    · subst hn
      by_cases h : n = name
      · subst h
        simp [update, find?]
      · simp [update, find?, h, Ne.symm h]
    · have hu : find? (update ((n, x) :: es) name f) other = find? (update es name f) other := by
        by_cases h : n = name
        · simp [update, find?, h, h ▸ hn]
        · simp [update, find?, h, hn]
      rw [hu, ih]
      simp [find?, hn]

end Entries

namespace Node

def newFile (now : Int) (data : Bytes) : Node :=
  .file (.fresh Stamp.fileMode now) data

def newDirectory (now : Int) : Node :=
  .directory (.fresh Stamp.directoryMode now) []

def stamp : Node → Stamp
  | .file s _ => s
  | .directory s _ => s

def isDirectory : Node → Bool
  | .file _ _ => false
  | .directory _ _ => true

def mapStamp (f : Stamp → Stamp) : Node → Node
  | .file s data => .file (f s) data
  | .directory s es => .directory (f s) es

def setTime (mtime : Json) : Node → Node :=
  mapStamp fun s => { s with mtime }

def touch (now : Int) : Node → Node :=
  setTime (.integer now)

def setData (f : Bytes → Bytes) : Node → Node
  | .file s data => .file s (f data)
  | .directory s es => .directory s es

def mapEntries (f : Entries → Entries) : Node → Node
  | .file s data => .file s data
  | .directory s es => .directory s (f es)

/-- The node at a path, or why there is none. -/
def walk : Node → Path → Except Errno Node
  | node, [] => .ok node
  | .file _ _, _ :: _ => .error .notDirectory
  | .directory _ es, name :: rest =>
    match Entries.find? es name with
    | none => .error .noEntry
    | some child => walk child rest

def at? (node : Node) (p : Path) : Option Node :=
  (node.walk p).toOption

theorem walk_append (node : Node) (p q : Path) :
    node.walk (p ++ q) = node.walk p >>= fun child => child.walk q := by
  induction p generalizing node with
  | nil => simp [walk, bind, Except.bind]
  | cons name rest ih =>
    cases node with
    | file s data => simp [walk, bind, Except.bind]
    | directory s es =>
      cases h : Entries.find? es name with
      | none => simp [walk, h, bind, Except.bind]
      | some child => simpa [walk, h] using ih child

def modify (f : Node → Node) : Path → Node → Node
  | [], node => f node
  | _ :: _, .file s data => .file s data
  | name :: rest, .directory s es => .directory s (Entries.update es name (modify f rest))

theorem walk_modify_self (f : Node → Node) (p : Path) (node : Node) :
    (modify f p node).walk p = (node.walk p).map f := by
  induction p generalizing node with
  | nil => simp [walk, modify, Except.map]
  | cons name rest ih =>
    cases node with
    | file s data => simp [walk, modify, Except.map]
    | directory s es =>
      cases h : Entries.find? es name with
      | none => simp [walk, modify, Entries.find?_update, h, Except.map]
      | some child => simpa [walk, modify, Entries.find?_update, h] using ih child

mutual

def nodes : Node → List (Path × Node)
  | .file s data => [([], .file s data)]
  | .directory s es => ([], .directory s es) :: entryNodes es

def entryNodes : Entries → List (Path × Node)
  | [] => []
  | (name, child) :: es => child.nodes.map (fun p => (name :: p.1, p.2)) ++ entryNodes es

end

def height (node : Node) : Nat :=
  (node.nodes.map fun p => p.1.length).foldl max 0

end Node

end MemoryShell
