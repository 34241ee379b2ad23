import FullText.Proofs.Store.Commands
import FullText.Proofs.Value
import FullText.Proofs.Write.Entries
import FullText.Proofs.Write.Identifiers

/-!
Rows under their own keys. Rows are inserted if every one of them names its key, and otherwise the
first one that does not is told. The command for a row sets every attribute besides the key, the name
before the text and nothing left out: a null is written as the sentinel.
-/

namespace FullText

/-! ### The arguments that set a hash -/

namespace Command

variable (key nullSentinel : String) (row : Row)

theorem length_hset :
    (ofTexts "HSET" (key :: Row.pairs nullSentinel row)).args.length = 1 + 2 * row.size := by
  rw [ofTexts, List.length_map, List.length_cons, Row.length_pairs, Nat.add_comm]

/-- Behind the key the names stand at odd positions. -/
theorem hset_name_at (k : Nat) :
    (ofTexts "HSET" (key :: Row.pairs nullSentinel row)).argTexts[2 * k + 1]? =
      row.entries[k]?.map (·.1) := by
  rw [argTexts_ofTexts, List.getElem?_cons_succ, (Row.getElem?_pairs nullSentinel row k).1]

/-- The texts stand at even positions. -/
theorem hset_text_at (k : Nat) :
    (ofTexts "HSET" (key :: Row.pairs nullSentinel row)).argTexts[2 * (k + 1)]? =
      row.entries[k]?.map (·.2.wireText nullSentinel) := by
  rw [argTexts_ofTexts, Nat.mul_succ, List.getElem?_cons_succ,
    (Row.getElem?_pairs nullSentinel row k).2]

end Command

namespace Write

/-- The attributes of a row besides its key. -/
def attributes (row : Row) : List (String × Value) :=
  (Row.without row ["_key"]).entries

/-- A command sets the hash of a row: behind the key that the row names stand its other attributes in
their order, each name before its text. The positions are told as well, for `k` from nought on; the
sentinel stands for a null, or is the text of the value itself. -/
structure SetsHash (nullSentinel : String) (row : Row) (command : Command) : Prop where
  command_eq : ∃ key, Row.Names row "_key" key ∧ command = .ofTexts "HSET" (key ::
    (attributes row).flatMap fun (name, value) => [name, value.wireText nullSentinel])
  length_args : command.args.length = 1 + 2 * (row.size - 1)
  name_at : ∀ k name value, (attributes row)[k]? = some (name, value) →
    command.argTexts[2 * k + 1]? = some name
  text_at : ∀ k name value, (attributes row)[k]? = some (name, value) →
    command.argTexts[2 * (k + 1)]? = some (value.wireText nullSentinel)
  sentinel_at : ∀ k name value, (attributes row)[k]? = some (name, value) →
    (command.argTexts[2 * (k + 1)]? = some nullSentinel ↔
      value.resolved = .null ∨ value.HasText nullSentinel)

theorem StoredAs.setsHash {config : Config} {row : Row} {command : Command}
    (hstored : StoredAs config row command) : SetsHash config.nullSentinel row command := by
  obtain ⟨key, hkey, rfl⟩ := hstored
  rw [Row.identifier?_eq_some_iff] at hkey
  have hattributes : attributes row = (row.erase "_key").entries := by
    rw [attributes, Row.without_singleton]
  have htext (k : Nat) (name : String) (value : Value)
      (hk : (attributes row)[k]? = some (name, value)) :
      (Command.ofTexts "HSET"
        (key :: Row.pairs config.nullSentinel (row.erase "_key"))).argTexts[2 * (k + 1)]? =
          some (value.wireText config.nullSentinel) := by
    rw [Command.hset_text_at, ← hattributes, hk, Option.map_some]
  refine ⟨⟨key, hkey, ?_⟩, ?_, ?_, htext, ?_⟩
  · rw [hattributes]
    rfl
  · rw [Command.length_hset, Row.size_erase hkey.mem_names]
  · intro k name value hk
    rw [Command.hset_name_at, ← hattributes, hk, Option.map_some]
  · intro k name value hk
    rw [htext k name value hk, Option.some.injEq, Value.wireText_eq_sentinel_iff]

theorem store_tells (config : Config) :
    TellsPosition (fun (row, position) => store config position row)
      (fun row => ∃ key, Row.Names row "_key" key) .missingRowKey where
  of_readable := by
    rintro row position ⟨key, hkey⟩
    exact ⟨_, store_eq_ok_iff.mpr ⟨key, Row.identifier?_eq_some_iff.mpr hkey, rfl⟩⟩
  of_unreadable := by
    intro row position hnone
    dsimp only
    rw [store, Row.identifier?_eq_none_iff.mpr (not_exists.mp hnone)]

/-- Rows are written without loss. They are inserted exactly when each of them names its key, each
row by a command that sets all its other attributes, and the first row without a key is told
otherwise. An update is the insertion of one row. -/
theorem insertion_lossless (config : Config) (rows : List Row) :
    ((∃ commands, insert config rows = .ok commands) ↔
      ∀ row ∈ rows, ∃ key, Row.Names row "_key" key) ∧
    (∀ commands, insert config rows = .ok commands →
      List.Forall₂ (SetsHash config.nullSentinel) rows commands) ∧
    (∀ error, insert config rows = .error error ↔
      ∃ position, FirstUnnamed "_key" rows position ∧ error = .missingRowKey position) ∧
    ∀ row, insert config [row] = (update config row).map fun command => [command] := by
  refine ⟨(store_tells config).exists_mapM_ok_iff, ?_, ?_, ?_⟩
  · intro commands hinsert
    exact (insert_storedAs hinsert).imp fun _ _ hstored => hstored.setsHash
  · intro error
    exact (store_tells config).firstUnnamed
  · intro row
    change [(row, 0)].mapM _ = _
    rw [List.mapM_cons, List.mapM_nil, update]
    dsimp only
    cases store config 0 row <;> rfl

/-- An author without a name, whose key stands among the other attributes and whose note is spelled
like a null. -/
def namelessAuthor : Row :=
  .ofList [("name", .null), ("_key", .backed "First" (.int 1)), ("books", .list []),
    ("note", .text "_null_")]

/-- The nameless author is inserted. An author with an id has no key and is told. -/
theorem nameless_author_inserted :
    (∃ command, insert {} [namelessAuthor] = .ok [command] ∧
      SetsHash "_null_" namelessAuthor command) ∧
    ∃ position, FirstUnnamed "_key" (namelessAuthor :: authors) position ∧
      insert {} (namelessAuthor :: authors) = .error (.missingRowKey position) := by
  obtain ⟨-, hset, -, -⟩ := insertion_lossless {} [namelessAuthor]
  obtain ⟨-, -, herror, -⟩ := insertion_lossless {} (namelessAuthor :: authors)
  obtain ⟨position, hposition, htold⟩ := (herror (.missingRowKey 1)).mp rfl
  refine ⟨⟨_, rfl, ?_⟩, position, hposition, htold ▸ rfl⟩
  cases hset _ rfl with
  | cons hrow _ => exact hrow

end Write

end FullText
