import FullText.Proofs.Write.Entries
import Mathlib.Order.Lattice

/-!
Whether the commands that write have all the arguments they need. Whatever bulk entries are lowered
to is complete. A row that is inserted or updated is not if it has no attribute besides its key: an
entry for such a document is lowered to no command, but an insertion sets a hash without attributes.
-/

namespace FullText

/-- A command that writes has the arguments it needs, and the keys among them are these: a hash is
set with a key and at least one name with its text, a deletion has at least one key, and a script is
followed by the number of its keys, of which there is at least one, and by the keys. -/
inductive Command.Complete : List String → Command → Prop where
  | hset (key : String) {attributes : List (String × String)} (hne : attributes ≠ []) :
      Complete [key]
        (.ofTexts "HSET" (key :: attributes.flatMap fun (name, text) => [name, text]))
  | del {keys : List String} (hne : keys ≠ []) : Complete keys (.ofTexts "DEL" keys)
  | eval (source : String) {keys : List String} (hne : keys ≠ []) (args : List Arg) :
      Complete keys { name := "EVAL"
                      args := .text source :: .int keys.length :: keys.map .text ++ args }

/-- The keys of a script can be counted, with one more in front of them. A list that fits into memory
is shorter than the greatest count. -/
def Script.Countable (script : Script) : Prop :=
  (script.keys.length : Int) < Decimal.int64Max

instance : DecidablePred Script.Countable :=
  fun script => inferInstanceAs (Decidable ((script.keys.length : Int) < Decimal.int64Max))

/-- The keys that an entry is about: the one of its document, and those of a script that it runs. -/
def BulkEntry.keys (keySeparator : String) (entry : BulkEntry) : List String :=
  if entry.operation = .delete then [entry.key keySeparator]
  else match entry.body with
    | some (.scripted script _ _) => (script.withDocumentKey (entry.key keySeparator)).keys
    | _ => [entry.key keySeparator]

/-- All commands that carry out entries are complete, each with the keys of its entry. -/
def LowersCompletely (config : Config) (entries : List BulkEntry) : Prop :=
  ∀ command ∈ Write.lower config entries, ∃ entry ∈ entries,
    command.Complete (entry.keys config.keySeparator)

/-! ### Rows -/

/-- A command that sets a hash is complete exactly if it sets an attribute. -/
theorem Command.exists_complete_hset_iff {key : String} {attributes : List (String × String)} :
    (∃ keys, Complete keys
      (.ofTexts "HSET" (key :: attributes.flatMap fun (name, text) => [name, text]))) ↔
      attributes ≠ [] := by
  constructor
  · rintro ⟨keys, hcomplete⟩ rfl
    generalize hcommand : ofTexts "HSET" _ = command at hcomplete
    cases hcomplete with
    | hset other hne =>
        obtain ⟨first, others, rfl⟩ := List.exists_cons_of_ne_nil hne
        have hlength := congrArg (fun command => command.args.length) hcommand
        simp [ofTexts] at hlength
    | del =>
        have hname : "HSET" = "DEL" := congrArg Command.name hcommand
        exact absurd hname (by decide)
    | eval =>
        have hname : "HSET" = "EVAL" := congrArg Command.name hcommand
        exact absurd hname (by decide)
  · intro hne
    exact ⟨[key], .hset key hne⟩

/-- A row under its own key becomes a complete command exactly if it has an attribute besides. -/
theorem Write.complete_stored_iff {config : Config} {row : Row} {command : Command}
    (hstored : StoredAs config row command) :
    (∃ keys, command.Complete keys) ↔ ∃ name ∈ row.names, name ≠ "_key" := by
  obtain ⟨key, -, rfl⟩ := hstored
  rw [Row.pairs_eq_flat, Command.exists_complete_hset_iff, Ne, Row.texts_eq_nil_iff,
    OrderedMap.names_erase, List.filter_eq_nil_iff]
  simp

/-! ### Entries -/

theorem Script.keys_withDocumentKey_ne_nil (script : Script) (key : String) :
    (script.withDocumentKey key).keys ≠ [] := by
  obtain ⟨own, hkeys, -⟩ := script.keys_withDocumentKey key
  rw [hkeys]
  exact List.cons_ne_nil key own

/-- The keys can be counted, even where the key of the document has been put in front. -/
theorem Script.Countable.withDocumentKey {script : Script} (hcountable : script.Countable)
    (key : String) : ((script.withDocumentKey key).keys.length : Int) ≤ Decimal.int64Max := by
  have hlength : (script.withDocumentKey key).keys.length ≤ script.keys.length + 1 := by
    obtain ⟨own, hkeys, hown | ⟨hown, -⟩⟩ := script.keys_withDocumentKey key
    · rw [hkeys, ← hown]
      exact Nat.le_succ _
    · rw [hkeys, hown, List.length_cons]
  unfold Countable at hcountable
  omega

theorem Script.count_withDocumentKey {script : Script} (hcountable : script.Countable)
    (key : String) : Arg.count (script.withDocumentKey key).keys.length =
      .int (script.withDocumentKey key).keys.length := by
  rw [Arg.count, min_eq_left (hcountable.withDocumentKey key)]

/-- What an entry is lowered to is complete. -/
theorem BulkEntry.LowersTo.complete {keySeparator nullSentinel : String} {entry : BulkEntry}
    {command : Command} (hlowers : entry.LowersTo keySeparator nullSentinel command)
    (hcountable : ∀ script upsert flag, entry.body = some (.scripted script upsert flag) →
      script.Countable) : command.Complete (entry.keys keySeparator) := by
  cases hlowers with
  | deletion hbody =>
      have hkeys : entry.keys keySeparator = [entry.key keySeparator] := by
        rcases hbody with hdelete | hnone
        · rw [BulkEntry.keys, if_pos hdelete]
        · rw [BulkEntry.keys, hnone, ite_self]
      rw [hkeys]
      exact .del (List.cons_ne_nil _ _)
  | @document doc flag hoperation hbody hne =>
      have hkeys : entry.keys keySeparator = [entry.key keySeparator] := by
        rw [BulkEntry.keys, hbody, ite_self]
      have htexts : Row.texts nullSentinel doc ≠ [] := by
        rw [Ne, Row.texts_eq_nil_iff, OrderedMap.names, List.map_eq_nil_iff]
        exact List.isEmpty_eq_false_iff.mp hne
      rw [hkeys, Row.pairs_eq_flat]
      exact .hset _ htexts
  | @script script upsert flag hoperation hbody =>
      have hkeys : entry.keys keySeparator =
          (script.withDocumentKey (entry.key keySeparator)).keys := by
        rw [BulkEntry.keys, if_neg hoperation, hbody]
      rw [hkeys, Script.compiled, Script.count_withDocumentKey (hcountable _ _ _ hbody),
        List.append_assoc]
      exact .eval _ (script.keys_withDocumentKey_ne_nil _) _

theorem lowersCompletely {entries : List BulkEntry}
    (hcountable : ∀ entry ∈ entries, ∀ script upsert flag,
      entry.body = some (.scripted script upsert flag) → script.Countable) (config : Config) :
    LowersCompletely config entries := by
  intro command hcommand
  obtain ⟨entry, hentry, hcommand⟩ := List.mem_flatMap.mp hcommand
  exact ⟨entry, hentry, (BulkEntry.lowersTo_of_mem hcommand).complete (hcountable entry hentry)⟩

/-- The script that an entry carries is one of those it was made with. -/
theorem Write.ComesFrom.script_mem {schema : Schema} {operation : BulkOperation}
    {options : BulkOptions} {scripts : List Script} {row : Row} {entry : BulkEntry}
    (hfrom : ComesFrom schema operation options scripts row entry) {script : Script} {upsert : Row}
    {flag : Bool} (hbody : entry.body = some (.scripted script upsert flag)) :
    script ∈ scripts := by
  rcases hfrom.body_cases with hnone | ⟨script?, hscripts, hsome⟩
  · rw [hnone] at hbody
    cases hbody
  · rw [hsome] at hbody
    cases script? with
    | none => cases hbody
    | some carried =>
        cases hbody
        exact hscripts script rfl

theorem lowersCompletely_of_comeFrom {schema : Schema} {operation : BulkOperation}
    {options : BulkOptions} {scripts : List Script} {rows : List Row} {made : List BulkEntry}
    (hcountable : ∀ script ∈ scripts, script.Countable)
    (hmade : List.Forall₂ (Write.ComesFrom schema operation options scripts) rows made)
    (config : Config) : LowersCompletely config made := by
  refine lowersCompletely (forall_mem_of_forall₂ hmade ?_) config
  intro row entry hfrom script upsert flag hbody
  exact hcountable script (hfrom.script_mem hbody)

/-- Writing makes complete commands, with one exception: what a row is inserted or updated with is
complete exactly if the row has an attribute besides its key. -/
theorem written_commands_complete (config : Config) (schema : Schema) (rows : List Row)
    (scripts? : Option (List Script)) (scripts : List Script)
    (hupserted : ∀ script ∈ scripts?.getD [], script.Countable)
    (hwritten : ∀ script ∈ scripts, script.Countable) :
    (∀ commands, Write.insert config rows = .ok commands → List.Forall₂ (fun row command =>
      (∃ keys, command.Complete keys) ↔ ∃ name ∈ row.names, name ≠ "_key") rows commands) ∧
    (∀ row command, Write.update config row = .ok command →
      ((∃ keys, command.Complete keys) ↔ ∃ name ∈ row.names, name ≠ "_key")) ∧
    (∀ made, Write.upsert schema rows scripts? = .ok made → LowersCompletely config made) ∧
    (∀ operation options made, Write.bulk schema operation rows scripts options = .ok made →
      LowersCompletely config made) ∧
    ∀ ids, LowersCompletely config (Write.deletions schema ids) := by
  refine ⟨?_, ?_, ?_, ?_, ?_⟩
  · intro commands hinsert
    exact (Write.insert_storedAs hinsert).imp fun _ _ => Write.complete_stored_iff
  · intro row command hupdate
    exact Write.complete_stored_iff (Write.store_eq_ok_iff.mp hupdate)
  · intro made hmade
    exact lowersCompletely_of_comeFrom hupserted (Write.upsert_comeFrom hmade) config
  · intro operation options made hmade
    obtain ⟨operation, hmade⟩ := Write.bulk_comeFrom hmade
    exact lowersCompletely_of_comeFrom hwritten hmade config
  · intro ids
    refine lowersCompletely ?_ config
    intro entry hentry script upsert flag hbody
    obtain ⟨id, -, rfl⟩ := List.mem_map.mp hentry
    cases hbody

/-- A row with an attribute besides its key, and scripts with and without keys of their own. -/
theorem author_commands_complete :
    (∀ script ∈ Write.authorScripts, script.Countable) ∧
    (∃ command, Write.update {} (.ofList [("name", .text "Ada"), ("_key", .text "people::1")]) =
      .ok command ∧ ∃ keys, command.Complete keys) ∧
    ∃ made, Write.bulk Write.people "update" Write.authors Write.authorScripts {} = .ok made ∧
      LowersCompletely {} made := by
  have hcountable : ∀ script ∈ Write.authorScripts, script.Countable := by
    decide
  obtain ⟨-, hupdate, -, hbulk, -⟩ := written_commands_complete {} Write.people Write.authors none
    Write.authorScripts nofun hcountable
  have hstored := hupdate (.ofList [("name", .text "Ada"), ("_key", .text "people::1")]) _ rfl
  exact ⟨hcountable, ⟨_, rfl, hstored.mpr ⟨"name", by decide, by decide⟩⟩, _, rfl,
    hbulk "update" {} _ rfl⟩

/-- A row with no attribute besides its key sets a hash without attributes. -/
theorem lone_key_incomplete :
    Write.insert {} [.ofList [("_key", .text "people::1")]] = .ok [.ofTexts "HSET" ["people::1"]] ∧
      ¬∃ keys, (Command.ofTexts "HSET" ["people::1"]).Complete keys := by
  refine ⟨rfl, fun hcomplete => ?_⟩
  exact Command.exists_complete_hset_iff.mp hcomplete rfl

end FullText
