/-!
Maps that remember the order of first insertion. A later value for a known key takes the place of
the earlier one and keeps its position.
-/

set_option autoImplicit false

namespace MemoryShell

/-- Keys with their values, in order of first insertion. -/
abbrev OrderedMap (κ α : Type) := List (κ × α)

namespace OrderedMap

variable {κ α : Type} [DecidableEq κ]

def find? : OrderedMap κ α → κ → Option α
  | [], _ => none
  | (k, a) :: m, key => if k = key then some a else find? m key

def insert : OrderedMap κ α → κ → α → OrderedMap κ α
  | [], key, a => [(key, a)]
  | (k, b) :: m, key, a => if k = key then (key, a) :: m else (k, b) :: insert m key a

def erase (m : OrderedMap κ α) (key : κ) : OrderedMap κ α :=
  m.filter fun p => p.1 ≠ key

def ofList (entries : List (κ × α)) : OrderedMap κ α :=
  entries.foldl (fun m p => insert m p.1 p.2) []

def keys (m : OrderedMap κ α) : List κ :=
  m.map Prod.fst

def contains (m : OrderedMap κ α) (key : κ) : Bool :=
  (find? m key).isSome

theorem find?_insert_self (m : OrderedMap κ α) (key : κ) (a : α) :
    find? (insert m key a) key = some a := by
  induction m with
  | nil => simp [insert, find?]
  | cons p m ih =>
    obtain ⟨k, b⟩ := p
    by_cases h : k = key
    · simp [insert, find?, h]
    · simp [insert, find?, h, ih]

theorem find?_insert_of_ne (m : OrderedMap κ α) {key other : κ} (a : α) (hne : key ≠ other) :
    find? (insert m key a) other = find? m other := by
  induction m with
  | nil => simp [insert, find?, hne]
  | cons p m ih =>
    obtain ⟨k, b⟩ := p
    by_cases h : k = key
    · subst h
      simp [insert, find?, hne]
    · simp [insert, find?, h, ih]

theorem find?_erase_self (m : OrderedMap κ α) (key : κ) : find? (erase m key) key = none := by
  induction m with
  | nil => rfl
  | cons p m ih =>
    obtain ⟨k, b⟩ := p
    by_cases h : k = key
    · simpa [erase, h] using ih
    · simpa [erase, find?, h] using ih

theorem find?_erase_of_ne (m : OrderedMap κ α) {key other : κ} (hne : key ≠ other) :
    find? (erase m key) other = find? m other := by
  induction m with
  | nil => rfl
  | cons p m ih =>
    obtain ⟨k, b⟩ := p
    by_cases h : k = key
    · subst h
      simpa [erase, find?, hne] using ih
    · simp only [erase, ne_eq, h, not_false_eq_true, decide_true, List.filter_cons_of_pos, find?]
      rw [← erase, ih]

theorem mem_keys_iff (m : OrderedMap κ α) (key : κ) : key ∈ keys m ↔ (find? m key).isSome = true := by
  induction m with
  | nil => simp [keys, find?]
  | cons p m ih =>
    obtain ⟨k, a⟩ := p
    by_cases h : k = key
    · simp [keys, find?, h]
    · have hkeys : key ∈ keys ((k, a) :: m) ↔ key ∈ keys m := by simp [keys, Ne.symm h]
      rw [hkeys, ih, find?, if_neg h]

theorem keys_insert (m : OrderedMap κ α) (key : κ) (a : α) :
    keys (insert m key a) = if key ∈ keys m then keys m else keys m ++ [key] := by
  induction m with
  | nil => rfl
  | cons p m ih =>
    obtain ⟨k, b⟩ := p
    by_cases h : k = key
    · subst h
      simp [insert, keys]
    · have hk : keys (insert ((k, b) :: m) key a) = k :: keys (insert m key a) := by
        simp [insert, keys, h]
      have hc : keys ((k, b) :: m) = k :: keys m := rfl
      rw [hk, ih, hc]
      by_cases hm : key ∈ keys m
      · simp [hm]
      · simp [hm, Ne.symm h]

theorem insert_of_notMem {m : OrderedMap κ α} {key : κ} (h : key ∉ keys m) (a : α) :
    insert m key a = m ++ [(key, a)] := by
  induction m with
  | nil => rfl
  | cons p m ih =>
    obtain ⟨k, b⟩ := p
    have hk : k ≠ key := fun heq => h (heq ▸ List.mem_cons_self)
    have hm := ih fun hmem => h (List.mem_cons_of_mem k hmem)
    rw [insert, if_neg hk, hm, List.cons_append]

theorem foldl_insert {m entries : OrderedMap κ α} (h : (keys (m ++ entries)).Nodup) :
    entries.foldl (fun m p => insert m p.1 p.2) m = m ++ entries := by
  induction entries generalizing m with
  | nil => simp
  | cons p entries ih =>
    obtain ⟨k, a⟩ := p
    have hnew : k ∉ keys m := by
      intro hk
      rw [keys, List.map_append, List.nodup_append] at h
      exact h.2.2 k hk k List.mem_cons_self rfl
    have hsplit : m ++ [(k, a)] ++ entries = m ++ (k, a) :: entries := by simp
    rw [List.foldl_cons, insert_of_notMem hnew, ih (by rwa [hsplit]), hsplit]

theorem ofList_of_nodup {entries : OrderedMap κ α} (h : (keys entries).Nodup) :
    ofList entries = entries :=
  foldl_insert (m := []) h

theorem mem_keys_foldl_insert {m entries : OrderedMap κ α} {key : κ}
    (h : key ∈ keys (entries.foldl (fun m p => insert m p.1 p.2) m)) :
    key ∈ keys m ∨ key ∈ keys entries := by
  induction entries generalizing m with
  | nil => exact .inl h
  | cons p entries ih =>
    obtain ⟨k, a⟩ := p
    rcases ih h with hm | hrest
    · rw [keys_insert] at hm
      split at hm
      · exact .inl hm
      · rcases List.mem_append.mp hm with hm | hk
        · exact .inl hm
        · exact .inr (List.mem_singleton.mp hk ▸ List.mem_cons_self)
    · exact .inr (List.mem_cons_of_mem k hrest)

theorem mem_keys_of_mem_ofList {entries : OrderedMap κ α} {p : κ × α} (h : p ∈ ofList entries) :
    p.1 ∈ keys entries := by
  rcases mem_keys_foldl_insert (m := []) (List.mem_map_of_mem h) with hnil | hkey
  · cases hnil
  · exact hkey

end OrderedMap

end MemoryShell
