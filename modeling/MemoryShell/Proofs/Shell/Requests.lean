import MemoryShell.Proofs.Shell.Accord
import MemoryShell.Proofs.Volume.Intact

/-!
Requests one after another. In a shell whose directory is absolute every request is answered, what
may not be called is denied and changes nothing, and whatever stood in the volume at the beginning is
intact in the end.
-/

set_option autoImplicit false

namespace MemoryShell.Shell

/-- Answers requests one after another, each at its time: what each one came to, and the shell after
the last. -/
def answerAll (s : Shell) : List (Int × Request) → List (Except Failure Reply) × Shell
  | [] => ([], s)
  | (now, r) :: rest =>
    let first := outcome (answer r) { s with clock := now }
    let later := answerAll first.2 rest
    (first.1 :: later.1, later.2)

theorem outcome_answer_eq (r : Request) (s : Shell) :
    outcome (answer r) s =
      ((outcome (r.answer s.directory s.clock) s.volume).1.mapError .volume,
        { s with volume := (outcome (r.answer s.directory s.clock) s.volume).2 }) := by
  unfold answer
  rw [outcome_bind, outcome_get]
  exact outcome_onVolume _ s

theorem exists_reply {s : Shell} (habs : Path.isAbsolute s.directory = true) (r : Request) :
    ∃ reply w, outcome (answer r) s = (.ok reply, { s with volume := w }) ∧
      s.volume.Intact w := by
  obtain ⟨reply, w, hrun, hintact⟩ := r.exists_outcome_answer habs s.clock s.volume
  refine ⟨reply, w, ?_, hintact⟩
  rw [outcome_answer_eq, hrun]
  rfl

theorem outcome_answer_denied {r : Request} (h : Request.isAllowed r.method = false) (s : Shell) :
    outcome (answer r) s = (.ok r.denial, s) := by
  rw [outcome_answer_eq, Request.outcome_answer_of_not_allowed h]
  rfl

theorem answerAll_append (s : Shell) (before after : List (Int × Request)) :
    answerAll s (before ++ after) =
      ((answerAll s before).1 ++ (answerAll (answerAll s before).2 after).1,
        (answerAll (answerAll s before).2 after).2) := by
  induction before generalizing s with
  | nil => rfl
  | cons first before ih => simp only [List.cons_append, answerAll, ih]

theorem answerAll_denied (now : Int) {r : Request} (h : Request.isAllowed r.method = false)
    (s : Shell) (before after : List (Int × Request)) :
    (answerAll s (before ++ (now, r) :: after)).1[(answerAll s before).1.length]? =
        some (.ok r.denial) ∧
      (answerAll s (before ++ [(now, r)])).2.volume = (answerAll s before).2.volume := by
  have hdenied := outcome_answer_denied h { (answerAll s before).2 with clock := now }
  constructor
  · rw [answerAll_append, answerAll, hdenied]
    simp
  · rw [answerAll_append, answerAll, hdenied]
    rfl

theorem exists_replies {s : Shell} (habs : Path.isAbsolute s.directory = true)
    (requests : List (Int × Request)) :
    ∃ replies : List Reply, (answerAll s requests).1 = replies.map .ok ∧
      replies.length = requests.length ∧ s.volume.Intact (answerAll s requests).2.volume := by
  -- a request changes nothing but the volume, so the directory stays absolute
  induction requests generalizing s with
  | nil => exact ⟨[], rfl, rfl, .refl _⟩
  | cons first rest ih =>
    obtain ⟨now, r⟩ := first
    obtain ⟨reply, w, hrun, hfirst⟩ := exists_reply (s := { s with clock := now }) habs r
    obtain ⟨replies, hreplies, hlength, hrest⟩ := ih (s := { s with clock := now, volume := w }) habs
    refine ⟨reply :: replies, ?_, congrArg (· + 1) hlength, ?_⟩
    · rw [answerAll, hrun, hreplies]
      rfl
    · rw [answerAll, hrun]
      exact hfirst.trans hrest

/-- Whatever an isolate asks for, in any order and with any arguments: every request has exactly one
answer, what may not be called is denied and leaves the volume as it is, and what stood in the volume
still stands there with its kind and its mode, and with its octets if it is a protected file. -/
theorem requests_leave_intact {s : Shell} (habs : Path.isAbsolute s.directory = true)
    (requests : List (Int × Request)) :
    ∃ replies : List Reply, (answerAll s requests).1 = replies.map .ok ∧
      replies.length = requests.length ∧
      (∀ before now r after, requests = before ++ (now, r) :: after →
        Request.isAllowed r.method = false →
          replies[before.length]? = some (.failure "PermissionError"
            (r.method ++ ": operation not permitted")) ∧
          (answerAll s (before ++ [(now, r)])).2.volume = (answerAll s before).2.volume) ∧
      ∀ p e, s.volume.root.entry p = some e →
        ∃ f, (answerAll s requests).2.volume.root.entry p = some f ∧ f.kind = e.kind ∧
          f.mode = e.mode ∧ (e.isProtected = true → f = e) := by
  obtain ⟨replies, hreplies, hlength, hintact⟩ := exists_replies habs requests
  refine ⟨replies, hreplies, hlength, ?_, ?_⟩
  · intro before now r after hsplit hdenied
    obtain ⟨hanswer, hvolume⟩ := answerAll_denied now hdenied s before after
    obtain ⟨earlier, hearlier, hplace, -⟩ := exists_replies habs before
    refine ⟨?_, hvolume⟩
    rw [hearlier, List.length_map, hplace, ← hsplit, hreplies, List.getElem?_map] at hanswer
    obtain ⟨reply, hreply, hok⟩ := Option.map_eq_some_iff.mp hanswer
    rw [hreply, Except.ok.inj hok]
    rfl
  · intro p e he
    obtain ⟨f, hf, hef⟩ := hintact p e he
    exact ⟨f, hf, hef.kind, hef.mode, hef.content⟩

/-- A write onto a protected file and a change of its mode are asked for; the file stays. -/
theorem requests_leave_intact_protected_file :
    let k : Name := ⟨Text.ofString "k", by decide⟩
    let root : Node := .directory (.fresh 0o777 0) [(k, .file (.fresh 0o444 0) [1, 2])]
    let requests : List (Int × Request) :=
      [(1, ⟨"write_file", [.value (.ofString "k"), .octets [3]]⟩),
        (2, ⟨"chmod", [.value (.ofString "k"), .value (.integer 0o666)]⟩)]
    ∃ first s : Shell, build 0 .usual builtins = .ok first ∧
      s = { first with volume := ⟨root, false⟩ } ∧ Path.isAbsolute s.directory = true ∧
      (∃ replies : List Reply, (answerAll s requests).1 = replies.map .ok ∧
        replies[1]? = some (.failure "PermissionError" "chmod: operation not permitted")) ∧
      (answerAll s requests).2.volume.root.entry [k] = some (.file 0o444 [1, 2]) := by
  intro k root requests
  obtain ⟨first, hfirst⟩ : ∃ first, build 0 .usual builtins = .ok first := ⟨_, rfl⟩
  have habs : Path.isAbsolute ({ first with volume := ⟨root, false⟩ } : Shell).directory = true :=
    Except.ok.inj hfirst ▸ rfl
  obtain ⟨replies, hreplies, -, hdenied, hintact⟩ := requests_leave_intact habs requests
  obtain ⟨f, hf, -, -, hcontent⟩ := hintact [k] (.file 0o444 [1, 2]) rfl
  refine ⟨first, _, hfirst, rfl, habs, ⟨replies, hreplies, ?_⟩, by rw [hf, hcontent rfl]⟩
  exact (hdenied [(1, ⟨"write_file", [.value (.ofString "k"), .octets [3]]⟩)] 2 _ [] rfl
    (by decide)).1

end MemoryShell.Shell
