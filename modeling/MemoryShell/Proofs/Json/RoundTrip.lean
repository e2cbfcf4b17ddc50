import MemoryShell.Proofs.Json.Literal
import MemoryShell.Proofs.Outcome

set_option autoImplicit false

namespace MemoryShell

namespace Json

open Coding (joinPairs)

def Plain : Json → Prop
  | .null => True
  | .string t => Unpaired t
  | _ => False

theorem ofChars_renderText (t : Text) (cs : Text) :
    Text.ofChars (renderText t) ++ cs = quote :: (Text.ofChars (t.flatMap renderPoint) ++ quote :: cs) := by
  simp only [renderText, Text.ofChars_cons, Text.ofChars_append, Text.ofChars_nil, List.cons_append,
    List.append_assoc, List.nil_append]
  rfl

theorem value_quote (d : Nat) (cs : Text) :
    value d (quote :: cs) = (stringBody cs).map fun r => (.string r.1, r.2) := by
  cases d <;> rfl

theorem value_render {v : Json} (h : v.Plain) (d : Nat) (cs : Text) :
    value d (Text.ofChars (render v) ++ cs) = .ok (v, cs) := by
  cases v with
  | null => cases d <;> rfl
  | string t =>
    rw [render, ofChars_renderText, value_quote, stringBody_flatMap_renderPoint,
      joinPairs_of_unpaired h]
    rfl
  | _ => cases h

theorem skip_space_render {v : Json} (h : v.Plain) (cs : Text) :
    skip (CodePoint.ofChar ' ' :: (Text.ofChars (render v) ++ cs)) = Text.ofChars (render v) ++ cs := by
  cases v with
  | null => rfl
  | string t => rfl
  | _ => cases h

theorem field_render {v : Json} (hv : v.Plain) (k : Text) (d : Nat) (cs : Text) :
    field (value d) (Text.ofChars (k.flatMap renderPoint) ++
        quote :: colon :: CodePoint.ofChar ' ' :: (Text.ofChars (render v) ++ cs)) =
      .ok ((joinPairs k, v), cs) := by
  have hskip : skip (colon :: CodePoint.ofChar ' ' :: (Text.ofChars (render v) ++ cs)) =
      colon :: CodePoint.ofChar ' ' :: (Text.ofChars (render v) ++ cs) := rfl
  rw [field, stringBody_flatMap_renderPoint]
  simp only [Except.bind, hskip]
  show (value d (skip (CodePoint.ofChar ' ' :: (Text.ofChars (render v) ++ cs)))).map _ = _
  rw [skip_space_render hv, value_render hv]
  rfl

def joinKey (f : Text × Json) : Text × Json :=
  (joinPairs f.1, f.2)

def fieldsText (f : Text × Json) (fs : List (Text × Json)) (cs : Text) : Text :=
  Text.ofChars (renderText f.1) ++ colon :: CodePoint.ofChar ' ' ::
    (Text.ofChars (render f.2) ++ (Text.ofChars (renderFields fs) ++ closeBrace :: cs))

theorem fieldsText_cons (f g : Text × Json) (fs : List (Text × Json)) (cs : Text) :
    fieldsText f (g :: fs) cs = Text.ofChars (renderText f.1) ++ colon :: CodePoint.ofChar ' ' ::
      (Text.ofChars (render f.2) ++ comma :: CodePoint.ofChar ' ' :: fieldsText g fs cs) := by
  simp only [fieldsText, renderFields, Text.ofChars_cons, Text.ofChars_append, List.cons_append,
    List.append_assoc]
  rfl

theorem fields_render {f : Text × Json} {fs : List (Text × Json)}
    (hfs : ∀ g ∈ f :: fs, g.2.Plain) (d : Nat) {n : Nat} (hn : fs.length < n) (cs : Text) :
    fields (value d) n (fieldsText f fs cs) = .ok ((f :: fs).map joinKey, cs) := by
  induction fs generalizing f n with
  | nil =>
    obtain ⟨n, rfl⟩ := Nat.exists_eq_succ_of_ne_zero (Nat.ne_zero_of_lt hn)
    rw [fieldsText, ofChars_renderText, fields, field_render (hfs f List.mem_cons_self)]
    rfl
  | cons g fs ih =>
    obtain ⟨n, rfl⟩ := Nat.exists_eq_succ_of_ne_zero (Nat.ne_zero_of_lt hn)
    have hrest : fields (value d) n (fieldsText g fs cs) = .ok ((g :: fs).map joinKey, cs) :=
      ih (fun h hh => hfs h (List.mem_cons_of_mem f hh)) (Nat.lt_of_succ_lt_succ hn)
    have hspace : skip (CodePoint.ofChar ' ' :: fieldsText g fs cs) = fieldsText g fs cs := rfl
    rw [fieldsText_cons, ofChars_renderText, fields, field_render (hfs f List.mem_cons_self)]
    show (fields (value d) n (skip (CodePoint.ofChar ' ' :: fieldsText g fs cs))).map _ = _
    rw [hspace, hrest]
    rfl

theorem length_lt_fieldsText (f : Text × Json) (fs : List (Text × Json)) (cs : Text) :
    fs.length < (fieldsText f fs cs).length := by
  induction fs generalizing f with
  | nil =>
    simp only [fieldsText, List.length_append, List.length_cons, List.length_nil]
    omega
  | cons g fs ih =>
    have hg := ih g
    rw [fieldsText_cons]
    simp only [List.length_append, List.length_cons] at hg ⊢
    omega

theorem render_object_cons (f : Text × Json) (fs : List (Text × Json)) :
    Text.ofChars (render (.object (f :: fs))) = openBrace :: fieldsText f fs [] := by
  simp only [render, fieldsText, Text.ofChars_cons, Text.ofChars_append, Text.ofChars_nil]
  rfl

theorem value_object (d : Nat) (f : Text × Json) (fs : List (Text × Json)) (cs : Text) :
    value (d + 1) (openBrace :: fieldsText f fs cs) =
      (fields (value d) ((fieldsText f fs cs).length + 1) (fieldsText f fs cs)).map fun r =>
        (.object (OrderedMap.ofList r.1), r.2) := by
  rw [fieldsText, ofChars_renderText]
  rfl

theorem parseText_render_object {fs : List (Text × Json)} (hfs : ∀ f ∈ fs, f.2.Plain) :
    parseText (Text.ofChars (render (.object fs))) =
      .ok (.object (OrderedMap.ofList (fs.map joinKey))) := by
  cases fs with
  | nil => rfl
  | cons f fs =>
    have hcount : fs.length < (fieldsText f fs []).length + 1 :=
      Nat.lt_succ_of_lt (length_lt_fieldsText f fs [])
    have hvalue : value depthLimit (openBrace :: fieldsText f fs []) =
        .ok (.object (OrderedMap.ofList ((f :: fs).map joinKey)), []) := by
      rw [show depthLimit = 989 + 1 from rfl, value_object, fields_render hfs 989 hcount]
      rfl
    have hopen : skip (openBrace :: fieldsText f fs []) = openBrace :: fieldsText f fs [] := rfl
    rw [render_object_cons, parseText, hopen, hvalue]
    rfl

end Json

end MemoryShell
