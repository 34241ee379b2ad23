import FullText.Proofs.Store.History

/-!
Which hashes a command can change. The commands that write have targets, and a store in any state,
with any answers prepared, keeps every hash that is not at one of them.
-/

namespace FullText

/-- The keys at which a command may change hashes: the one where it sets or adds to fields, or those
that it deletes. -/
def Command.targets (command : Command) : List String :=
  match Text.upper command.name with
  | "HSET" | "HINCRBY" => command.argTexts.take 1
  | "DEL" => command.argTexts
  | _ => []

namespace Command

theorem targets_hset (key : String) (pairs : List String) :
    (ofTexts "HSET" (key :: pairs)).targets = [key] := by
  have hname : Text.upper "HSET" = "HSET" := by decide
  rw [targets, argTexts_ofTexts, ofTexts, hname]
  rfl

theorem targets_del (keys : List String) : (ofTexts "DEL" keys).targets = keys := by
  have hname : Text.upper "DEL" = "DEL" := by decide
  rw [targets, argTexts_ofTexts, ofTexts, hname]
  rfl

theorem targets_hincrby (key : String) (args : List Arg) :
    targets { name := "HINCRBY", args := .text key :: args } = [key] := by
  have hname : Text.upper "HINCRBY" = "HINCRBY" := by decide
  rw [targets, hname]
  rfl

/-- A command that is none of these three has no targets. -/
theorem targets_eq_nil {name : String} (hname : Text.upper name ∉ ["HSET", "HINCRBY", "DEL"])
    (args : List Arg) : targets { name, args } = [] := by
  simp only [List.mem_cons, List.not_mem_nil, or_false, not_or] at hname
  obtain ⟨hhset, hhincrby, hdel⟩ := hname
  unfold targets
  split
  case h_1 hname => exact absurd hname hhset
  case h_2 hname => exact absurd hname hhincrby
  case h_3 hname => exact absurd hname hdel
  case h_4 => rfl

/-- Whatever the targets of such a command have to be, they are. -/
theorem targets_of_read {name : String} (hname : Text.upper name ∉ ["HSET", "HINCRBY", "DEL"])
    (args : List Arg) {named : String → Prop} : ∀ key ∈ targets { name, args }, named key := by
  rw [targets_eq_nil hname]
  exact nofun

end Command

namespace Store

variable {key : String}

/-- A step keeps every hash that its command does not target. -/
theorem Step.get?_eq {command : Command} {hashes after : OrderedMap Hash}
    {answer : Except TransportError Reply} (hstep : Step command hashes answer after)
    (hnot : key ∉ command.targets) : after.get? key = hashes.get? key := by
  unfold Command.targets at hnot
  cases hstep with
  | refused | listed => rfl
  | @set target pairs hname hargs =>
      have hne : key ≠ target := by simpa [hname, hargs] using hnot
      rw [OrderedMap.get?_put, if_neg hne.symm]
  | deleted hname hargs =>
      have hkept : key ∉ command.argTexts := by simpa [hname] using hnot
      rw [OrderedMap.get?_eraseAll, if_neg hkept]
  | @increased target field text amount old hname hargs =>
      have hne : key ≠ target := by simpa [hname, hargs] using hnot
      rw [OrderedMap.get?_put, if_neg hne.symm]

theorem hash?_perform {command : Command} (hnot : key ∉ command.targets) (store : Store) :
    (perform command store).2.hash? key = store.hash? key := by
  obtain ⟨answer, hashes, hperform, hstep⟩ := perform_performs command store
  rw [hperform]
  exact hstep.get?_eq hnot

/-- A store in any state keeps the hashes that a command does not target. -/
theorem hash?_execute {command : Command} (hnot : key ∉ command.targets) (store : Store) :
    (execute command store).2.hash? key = store.hash? key := by
  unfold execute
  dsimp only
  split
  case h_4 => exact hash?_perform hnot _
  all_goals rfl

theorem hash?_converse {commands : List Command}
    (hnot : ∀ command ∈ commands, key ∉ command.targets) (store : Store) :
    (converse commands store).2.hash? key = store.hash? key := by
  induction commands generalizing store with
  | nil => rfl
  | cons command commands ih =>
      obtain ⟨hfirst, hlater⟩ := List.forall_mem_cons.mp hnot
      rw [converse_cons, ih hlater, hash?_execute hfirst]

end Store

end FullText
