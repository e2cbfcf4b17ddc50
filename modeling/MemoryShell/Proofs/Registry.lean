import Mathlib.Data.List.Induction
import MemoryShell.Proofs.Shell.Line

/-!
What a registry holds after any registrations. Under each lower-case name it finds the command that was
registered last, and it lists the names in the order in which they came first. A shell takes the commands
that it is offered in their order, and is not built if one of them is none.
-/

set_option autoImplicit false

namespace MemoryShell

/-- What is offered is no command: it refuses the shell, or what it makes has no asynchronous body. -/
inductive Offer.Unfit {α : Type} : Offer α → Prop
  | refusesShell : Unfit .refusesShell
  | withoutBody : Unfit (.made .withoutBody)
  | bodyNotAsynchronous : Unfit (.made .bodyNotAsynchronous)
  | bodyNotCallable : Unfit (.made .bodyNotCallable)

section

variable {α : Type}

theorem Offer.unfit_or_command (offer : Offer α) :
    offer.Unfit ∨ ∃ c, offer = .made (.command c) := by
  cases offer with
  | refusesShell => exact .inl .refusesShell
  | made candidate =>
    cases candidate with
    | command c => exact .inr ⟨c, rfl⟩
    | withoutBody => exact .inl .withoutBody
    | bodyNotAsynchronous => exact .inl .bodyNotAsynchronous
    | bodyNotCallable => exact .inl .bodyNotCallable

theorem Offer.command_of_unfit {offer : Offer α} (h : offer.Unfit) (name : String) :
    offer.command name = .error (.invalidCommand name) := by
  cases h <;> rfl

theorem Offer.not_unfit_command (c : α) : ¬ Offer.Unfit (.made (.command c)) := by
  intro h
  cases h

def offers (given : List (String × α)) : List (String × Offer α) :=
  given.map fun e => (e.1, .made (.command e.2))

theorem offers_or_unfit (commands : List (String × Offer α)) :
    (∃ given, commands = offers given) ∨
      ∃ given name offer rest, commands = offers given ++ (name, offer) :: rest ∧ offer.Unfit := by
  induction commands with
  | nil => exact .inl ⟨[], rfl⟩
  | cons e commands ih =>
    obtain ⟨name, offer⟩ := e
    rcases offer.unfit_or_command with hunfit | ⟨c, rfl⟩
    · exact .inr ⟨[], name, offer, commands, rfl, hunfit⟩
    · rcases ih with ⟨given, rfl⟩ | ⟨given, other, unfit, rest, rfl, hunfit⟩
      · exact .inl ⟨(name, c) :: given, rfl⟩
      · exact .inr ⟨(name, c) :: given, other, unfit, rest, rfl, hunfit⟩

theorem not_unfit_of_mem_offers {given : List (String × α)} {e : String × Offer α}
    (h : e ∈ offers given) : ¬ e.2.Unfit := by
  obtain ⟨entry, -, rfl⟩ := List.mem_map.mp h
  exact Offer.not_unfit_command entry.2

namespace Registry

def registered (r : Registry α) (entries : List (String × α)) : Registry α :=
  entries.foldl (fun r e => r.register e.1 e.2) r

def lastUnder (entries : List (String × α)) (name : String) : Option α :=
  (entries.reverse.find? fun e => Text.lowercase e.1 = name).map Prod.snd

def firstNames (entries : List (String × α)) : List String :=
  (entries.map fun e => Text.lowercase e.1).eraseDups

theorem registered_append (r : Registry α) (earlier later : List (String × α)) :
    r.registered (earlier ++ later) = (r.registered earlier).registered later :=
  List.foldl_append

theorem lastUnder_cons (name : String) (c : α) (entries : List (String × α)) (key : String) :
    lastUnder ((name, c) :: entries) key =
      (lastUnder entries key).or (if Text.lowercase name = key then some c else none) := by
  unfold lastUnder
  rw [List.reverse_cons, List.find?_append]
  cases entries.reverse.find? fun e => Text.lowercase e.1 = key with
  | some e => rfl
  | none =>
    by_cases h : Text.lowercase name = key <;> simp [h]

theorem resolve?_registered (r : Registry α) (entries : List (String × α)) (name : String) :
    (r.registered entries).resolve? name = (lastUnder entries name).or (r.resolve? name) := by
  induction entries generalizing r with
  | nil => rfl
  | cons e entries ih =>
    obtain ⟨given, c⟩ := e
    have hfirst : r.registered ((given, c) :: entries) = (r.register given c).registered entries := rfl
    rw [hfirst, ih, resolve?_register, lastUnder_cons]
    cases lastUnder entries name with
    | some d => rfl
    | none => split <;> rfl

theorem lastUnder_eq_none_iff (entries : List (String × α)) (name : String) :
    lastUnder entries name = none ↔ ∀ e ∈ entries, Text.lowercase e.1 ≠ name := by
  simp [lastUnder]

theorem names_register (r : Registry α) (name : String) (c : α) :
    (r.register name c).names =
      if Text.lowercase name ∈ r.names then r.names else r.names ++ [Text.lowercase name] :=
  OrderedMap.keys_insert r.entries (Text.lowercase name) c

theorem firstNames_concat (entries : List (String × α)) (name : String) (c : α) :
    firstNames (entries ++ [(name, c)]) =
      if Text.lowercase name ∈ firstNames entries then firstNames entries
      else firstNames entries ++ [Text.lowercase name] := by
  unfold firstNames
  rw [List.map_append, List.map_singleton, List.eraseDups_append]
  generalize entries.map (fun e => Text.lowercase e.1) = names
  by_cases h : Text.lowercase name ∈ names
  · have hknown : [Text.lowercase name].removeAll names = [] := by simp [List.removeAll, h]
    rw [if_pos (List.mem_eraseDups.mpr h), hknown]
    simp
  · have hnew : [Text.lowercase name].removeAll names = [Text.lowercase name] := by
      simp [List.removeAll, h]
    rw [if_neg fun hin => h (List.mem_eraseDups.mp hin), hnew]
    rfl

theorem names_registered_empty (entries : List (String × α)) :
    (Registry.empty.registered entries).names = firstNames entries := by
  induction entries using List.reverseRecOn with
  | nil => rfl
  | append_singleton entries e ih =>
    obtain ⟨name, c⟩ := e
    have hlast : Registry.empty.registered (entries ++ [(name, c)]) =
        (Registry.empty.registered entries).register name c := registered_append _ _ _
    rw [hlast, names_register, firstNames_concat, ih]

theorem nodup_names_registered {r : Registry α} (h : r.names.Nodup) (entries : List (String × α)) :
    (r.registered entries).names.Nodup := by
  induction entries generalizing r with
  | nil => exact h
  | cons e entries ih =>
    refine ih (r := r.register e.1 e.2) ?_
    rw [names_register]
    split
    · exact h
    · rename_i hnew
      exact List.nodup_append.mpr ⟨h, List.nodup_singleton _, fun a ha b hb heq =>
        hnew (List.mem_singleton.mp hb ▸ heq ▸ ha)⟩

theorem names_prefix_registered (r : Registry α) (entries : List (String × α)) :
    r.names <+: (r.registered entries).names := by
  induction entries generalizing r with
  | nil => exact List.prefix_refl _
  | cons e entries ih =>
    obtain ⟨name, c⟩ := e
    have hone : r.names <+: (r.register name c).names := by
      rw [names_register]
      split
      · exact List.prefix_refl _
      · exact List.prefix_append _ _
    exact hone.trans (ih _)

theorem registerAll_offers (r : Registry α) (given : List (String × α))
    (rest : List (String × Offer α)) :
    r.registerAll (offers given ++ rest) = (r.registered given).registerAll rest := by
  induction given generalizing r with
  | nil => rfl
  | cons e given ih => exact ih (r.register e.1 e.2)

theorem registerAll_unfit (r : Registry α) {offer : Offer α} (h : offer.Unfit) (name : String)
    (rest : List (String × Offer α)) :
    r.registerAll ((name, offer) :: rest) = .error (.invalidCommand name) := by
  rw [registerAll, Offer.command_of_unfit h]

end Registry

end

namespace Shell

open Registry

variable {now : Int} {settings : Settings} {bare : Shell}

theorem build_eq (hbare : build now settings [] = .ok bare)
    (commands : List (String × Offer Command)) :
    build now settings commands =
      (Registry.empty.registerAll commands).map fun r => { bare with registry := r } := by
  unfold build at hbare ⊢
  obtain ⟨config, hconfig, hbare⟩ := ok_of_bind_ok hbare
  obtain ⟨volume, hvolume, hbare⟩ := ok_of_bind_ok hbare
  obtain rfl := Except.ok.inj hbare
  rw [hconfig]
  change (startVolume now config >>= fun volume => _) = _
  rw [hvolume]
  change (Registry.empty.registerAll commands >>= fun r => _) = _
  cases Registry.empty.registerAll commands <;> rfl

theorem build_offers (hbare : build now settings [] = .ok bare) (given : List (String × Command)) :
    build now settings (offers given) =
      .ok { bare with registry := Registry.empty.registered given } := by
  have hall := registerAll_offers Registry.empty given []
  rw [List.append_nil] at hall
  rw [build_eq hbare, hall]
  rfl

theorem build_unfit (hbare : build now settings [] = .ok bare) (given : List (String × Command))
    {offer : Offer Command} (h : offer.Unfit) (name : String) (rest : List (String × Offer Command)) :
    build now settings (offers given ++ (name, offer) :: rest) = .error (.invalidCommand name) := by
  rw [build_eq hbare, registerAll_offers, registerAll_unfit _ h]
  rfl

theorem build_eq_error_iff (hbare : build now settings [] = .ok bare)
    (commands : List (String × Offer Command)) (f : Failure) :
    build now settings commands = .error f ↔ ∃ front name offer rest,
      commands = front ++ (name, offer) :: rest ∧ (∀ e ∈ front, ¬ e.2.Unfit) ∧ offer.Unfit ∧
        f = .invalidCommand name ∧ f.label = "InvalidCommandClassError" := by
  constructor
  · intro hf
    rcases offers_or_unfit commands with ⟨given, rfl⟩ | ⟨given, name, offer, rest, rfl, hunfit⟩
    · rw [build_offers hbare] at hf
      cases hf
    · rw [build_unfit hbare given hunfit] at hf
      obtain rfl := Except.error.inj hf
      exact ⟨offers given, name, offer, rest, rfl, fun e he => not_unfit_of_mem_offers he, hunfit,
        rfl, rfl⟩
  · rintro ⟨front, name, offer, rest, rfl, hfront, hunfit, rfl, -⟩
    rcases offers_or_unfit front with ⟨given, rfl⟩ | ⟨given, other, unfit, more, rfl, hother⟩
    · exact build_unfit hbare given hunfit name rest
    · exact absurd hother (hfront _ (List.mem_append_right _ List.mem_cons_self))

theorem build_fails_iff (hbare : build now settings [] = .ok bare)
    (commands : List (String × Offer Command)) :
    (∃ f, build now settings commands = .error f) ↔ ∃ e ∈ commands, e.2.Unfit := by
  constructor
  · rintro ⟨f, hf⟩
    obtain ⟨front, name, offer, rest, rfl, -, hunfit, -⟩ := (build_eq_error_iff hbare commands f).mp hf
    exact ⟨_, List.mem_append_right _ List.mem_cons_self, hunfit⟩
  · rintro ⟨e, he, hunfit⟩
    rcases offers_or_unfit commands with ⟨given, rfl⟩ | ⟨given, name, offer, rest, rfl, hfails⟩
    · exact absurd hunfit (not_unfit_of_mem_offers he)
    · exact ⟨_, build_unfit hbare given hfails name rest⟩

theorem offers_of_build (hbare : build now settings [] = .ok bare)
    {commands : List (String × Offer Command)} {s : Shell} (hs : build now settings commands = .ok s) :
    ∃ given, commands = offers given ∧
      s = { bare with registry := Registry.empty.registered given } := by
  rcases offers_or_unfit commands with ⟨given, rfl⟩ | ⟨given, name, offer, rest, rfl, hunfit⟩
  · rw [build_offers hbare] at hs
    exact ⟨given, rfl, (Except.ok.inj hs).symm⟩
  · rw [build_unfit hbare given hunfit] at hs
    cases hs

/-- Where a shell can be built at all, it is not built with some commands just in case that one of the
offers is none, and then the failure names the first of these. Otherwise the commands are registered in
their order. After any further registrations, each lower-case name has the command that was registered last
under it, and others have none; the names are those of all registrations, each once and where it came first,
and a list of them that was taken earlier is still how the list begins. -/
theorem commands_by_last_registration (hbare : build now settings [] = .ok bare)
    (commands : List (String × Offer Command)) :
    ((∃ f, build now settings commands = .error f) ↔ ∃ e ∈ commands, e.2.Unfit) ∧
    (∀ f, build now settings commands = .error f ↔ ∃ front name offer rest,
      commands = front ++ (name, offer) :: rest ∧ (∀ e ∈ front, ¬ e.2.Unfit) ∧ offer.Unfit ∧
        f = .invalidCommand name ∧ f.label = "InvalidCommandClassError") ∧
    ∀ s, build now settings commands = .ok s → ∃ given, commands = offers given ∧
      s = { bare with registry := Registry.empty.registered given } ∧
      ∀ earlier later, let r := s.registry.registered earlier
        (∀ name, r.resolve? name = lastUnder (given ++ earlier) name ∧
          (r.resolve? name = none ↔ ∀ e ∈ given ++ earlier, Text.lowercase e.1 ≠ name) ∧
          r.contains name = (r.resolve? name).isSome ∧
          (name ∈ r.names ↔ r.contains name = true)) ∧
        r.names = firstNames (given ++ earlier) ∧ r.names.Nodup ∧ r.size = r.names.length ∧
        r.names <+: (r.registered later).names := by
  refine ⟨build_fails_iff hbare commands, build_eq_error_iff hbare commands, fun s hs => ?_⟩
  obtain ⟨given, rfl, rfl⟩ := offers_of_build hbare hs
  refine ⟨given, rfl, rfl, fun earlier later => ?_⟩
  intro r
  have hr : r = Registry.empty.registered (given ++ earlier) := (registered_append _ _ _).symm
  have hfound : ∀ name, r.resolve? name = lastUnder (given ++ earlier) name := by
    intro name
    rw [hr, resolve?_registered]
    exact Option.or_none
  refine ⟨fun name => ⟨hfound name, ?_, rfl, OrderedMap.mem_keys_iff r.entries name⟩, ?_, ?_, ?_,
    names_prefix_registered r later⟩
  · rw [hfound, lastUnder_eq_none_iff]
  · rw [hr, names_registered_empty]
  · rw [hr]
    exact nodup_names_registered (r := Registry.empty) List.nodup_nil _
  · exact (List.length_map Prod.fst).symm

/-- The first of two offers that are no commands is named. Two names that differ in case only, the final
letter of one included, are one name, whose later command is found. -/
theorem commands_by_last_registration_final_sigma :
    ∃ bare, build 0 .usual [] = .ok bare ∧
      build 0 .usual [("ls", .made (.command .user)), ("Bad", .made .withoutBody),
        ("worse", .refusesShell)] = .error (.invalidCommand "Bad") ∧
      ∃ s, build 0 .usual (offers [("ΣΑΣ", .user), ("ls", .names)]) = .ok s ∧
        let r := s.registry.registered [("σας", .arguments), ("LS", .user)]
        r.resolve? "σας" = some .arguments ∧ r.resolve? "ls" = some .user ∧ r.resolve? "ΣΑΣ" = none ∧
          r.names = ["σας", "ls"] ∧ r.size = 2 ∧ s.registry.names <+: r.names := by
  obtain ⟨bare, hbare⟩ : ∃ bare, build 0 .usual [] = .ok bare := ⟨_, rfl⟩
  refine ⟨bare, hbare, ?_, ?_⟩
  · obtain ⟨-, hfirst, -⟩ := commands_by_last_registration hbare
      [("ls", .made (.command .user)), ("Bad", .made .withoutBody), ("worse", .refusesShell)]
    refine (hfirst _).mpr ⟨[("ls", .made (.command .user))], "Bad", .made .withoutBody,
      [("worse", .refusesShell)], rfl, fun e he => ?_, .withoutBody, rfl, rfl⟩
    obtain rfl := List.mem_singleton.mp he
    exact Offer.not_unfit_command _
  · have hbuilt := build_offers hbare [("ΣΑΣ", .user), ("ls", .names)]
    obtain ⟨-, -, htaken⟩ := commands_by_last_registration hbare
      (offers [("ΣΑΣ", .user), ("ls", .names)])
    obtain ⟨given, hgiven, hs, hafter⟩ := htaken _ hbuilt
    obtain ⟨hfound, hnames, -, hsize, -⟩ := hafter [("σας", .arguments), ("LS", .user)] []
    obtain ⟨-, -, -, -, hlater⟩ := hafter [] [("σας", .arguments), ("LS", .user)]
    have hinjective : Function.Injective (offers : List (String × Command) → _) := by
      refine List.map_injective_iff.mpr fun a b hab => ?_
      obtain ⟨hname, hcommand⟩ := Prod.mk.inj hab
      exact Prod.ext hname (Candidate.command.inj (Offer.made.inj hcommand))
    obtain rfl := hinjective hgiven
    have hupper : Text.lowercase "ΣΑΣ" = "σας" := by decide +kernel
    have hlower : Text.lowercase "σας" = "σας" := by decide +kernel
    have hplain : Text.lowercase "ls" = "ls" ∧ Text.lowercase "LS" = "ls" := by decide +kernel
    refine ⟨_, hbuilt, ?_⟩
    intro r
    have hlist : r.names = ["σας", "ls"] := by
      rw [hnames]
      simp [firstNames, hupper, hlower, hplain, List.eraseDups_cons]
    refine ⟨?_, ?_, ?_, hlist, ?_, hlater⟩
    · rw [(hfound "σας").1]
      simp [lastUnder, hlower, hplain]
    · rw [(hfound "ls").1]
      simp [lastUnder, hplain]
    · rw [(hfound "ΣΑΣ").2.1]
      simp [hupper, hlower, hplain]
    · rw [hsize, hlist]
      rfl

end Shell

end MemoryShell
