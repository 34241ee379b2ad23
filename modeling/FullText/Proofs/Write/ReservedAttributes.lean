import FullText.Proofs.Store.Commands
import FullText.Proofs.Write.Entries

/-!
The names under which the attributes of rows are written. A row leaves out the reserved attributes
that it has been placed by, and no others: an insertion writes an id or an index as an attribute of
the document, and an entry writes a key.
-/

namespace FullText

/-- The attributes that say where a document goes. -/
def Row.reserved : List String :=
  ["_key", "_id", "_index"]

/-- The names that a command writes where the attributes come after `leading` arguments, each name
before its text. -/
def Command.writtenNames (leading : Nat) (command : Command) : List String :=
  (alternating (command.argTexts.drop leading)).map (·.1)

/-- The number of arguments before the attributes: the key alone, or else the source of a script,
the number of its keys, the keys and the arguments of its own. -/
def BulkEntry.leading (keySeparator : String) (entry : BulkEntry) : Nat :=
  match entry.body with
  | some (.scripted script _ _) =>
    2 + (script.withDocumentKey (entry.key keySeparator)).keys.length + script.args.length
  | _ => 1

/-- The row that a body carries. -/
def BulkBody.row : BulkBody → Row
  | .document doc _ => doc
  | .scripted _ upsert _ => upsert

/-! ### The names in a command -/

theorem Row.names_texts (nullSentinel : String) (row : Row) :
    (Row.texts nullSentinel row).map (·.1) = row.names := by
  rw [texts, List.map_map]
  rfl

theorem Command.writtenNames_hset (key nullSentinel : String) (row : Row) :
    (ofTexts "HSET" (key :: Row.pairs nullSentinel row)).writtenNames 1 = row.names := by
  rw [writtenNames, argTexts_ofTexts, List.drop_one, List.tail_cons, Row.pairs_eq_flat,
    alternating_flat, Row.names_texts]

theorem Command.writtenNames_script (script : Script) (nullSentinel : String) (row : Row) :
    writtenNames (2 + script.keys.length + script.args.length)
      { name := "EVAL", args := script.compiled ++ (Row.pairs nullSentinel row).map .text } =
        row.names := by
  have hlength : (script.compiled.map Arg.wireText).length =
      2 + script.keys.length + script.args.length := by
    simp [Script.compiled]
    omega
  have hpairs : ((Row.pairs nullSentinel row).map Arg.text).map Arg.wireText =
      Row.pairs nullSentinel row := by
    rw [List.map_map]
    exact List.map_id _
  rw [writtenNames, argTexts, List.map_append, List.drop_left' hlength, hpairs, Row.pairs_eq_flat,
    alternating_flat, Row.names_texts]

/-! ### The names that rows leave behind -/

/-- What a command that is not a deletion writes is what its entry carries. -/
theorem BulkEntry.LowersTo.writtenNames {keySeparator nullSentinel : String} {entry : BulkEntry}
    {command : Command} (hlowers : entry.LowersTo keySeparator nullSentinel command)
    (hname : command.name ≠ "DEL") : ∃ body, entry.body = some body ∧
      command.writtenNames (entry.leading keySeparator) = body.row.names := by
  cases hlowers with
  | deletion => exact absurd rfl hname
  | @document doc flag _ hbody _ =>
      refine ⟨_, hbody, ?_⟩
      rw [BulkEntry.leading, hbody]
      exact Command.writtenNames_hset _ _ doc
  | @script script upsert flag _ hbody =>
      refine ⟨_, hbody, ?_⟩
      rw [BulkEntry.leading, hbody]
      dsimp only
      rw [← script.args_withDocumentKey (entry.key keySeparator), Command.writtenNames_script]
      rfl

theorem Write.StoredAs.writtenNames {config : Config} {row : Row} {command : Command}
    (hstored : StoredAs config row command) :
    command.writtenNames 1 = row.names.filter (· != "_key") := by
  obtain ⟨key, -, rfl⟩ := hstored
  rw [Command.writtenNames_hset, OrderedMap.names_erase]

theorem Write.ComesFrom.writtenNames {schema : Schema} {operation : BulkOperation}
    {options : BulkOptions} {scripts : List Script} {row : Row} {entry : BulkEntry}
    (hfrom : ComesFrom schema operation options scripts row entry)
    {keySeparator nullSentinel : String} {command : Command}
    (hmem : command ∈ entry.commands keySeparator nullSentinel) (hname : command.name ≠ "DEL") :
    command.writtenNames (entry.leading keySeparator) =
      (row.names.filter (· != "_id")).filter (· != "_index") := by
  obtain ⟨carried, hcarried, hwritten⟩ := (BulkEntry.lowersTo_of_mem hmem).writtenNames hname
  rw [hwritten, ← OrderedMap.names_erase, ← OrderedMap.names_erase]
  rcases hfrom.body_cases with hnone | ⟨script?, -, hsome⟩
  · rw [hnone] at hcarried
    cases hcarried
  · rw [hsome] at hcarried
    cases script? <;> cases hcarried <;> rfl

/-! ### Reserved names -/

/-- Of the reserved attributes of a row, a command writes all but the key. -/
def PlaceWritten (row : Row) (command : Command) : Prop :=
  ∀ name ∈ Row.reserved,
    name ∈ command.writtenNames 1 ↔ name ∈ row.names ∧ name ≠ "_key"

/-- Of the reserved attributes of a row, the commands of an entry write the key and no other. -/
def KeyWritten (config : Config) (row : Row) (entry : BulkEntry) : Prop :=
  ∀ command ∈ entry.commands config.keySeparator config.nullSentinel, command.name ≠ "DEL" →
    ∀ name ∈ Row.reserved, name ∈ command.writtenNames (entry.leading config.keySeparator) ↔
      name ∈ row.names ∧ name = "_key"

theorem Write.StoredAs.placeWritten {config : Config} {row : Row} {command : Command}
    (hstored : StoredAs config row command) : PlaceWritten row command := by
  intro name _
  rw [hstored.writtenNames, List.mem_filter, bne_iff_ne]

theorem Write.ComesFrom.keyWritten {schema : Schema} {operation : BulkOperation}
    {options : BulkOptions} {scripts : List Script} {row : Row} {entry : BulkEntry}
    (hfrom : ComesFrom schema operation options scripts row entry) (config : Config) :
    KeyWritten config row entry := by
  intro command hmem hname name hreserved
  have hkey : name ≠ "_id" ∧ name ≠ "_index" ↔ name = "_key" := by
    revert name
    decide
  rw [hfrom.writtenNames hmem hname, List.mem_filter, List.mem_filter, bne_iff_ne, bne_iff_ne,
    and_assoc, hkey]

/-- The reserved attributes that are written as attributes of a document: an id or an index that a
row has besides its key, where the row is inserted or updated, and a key that a row has besides its
id, where the row becomes an entry. -/
theorem reserved_written_iff (config : Config) (schema : Schema) (rows : List Row) :
    (∀ commands, Write.insert config rows = .ok commands →
      List.Forall₂ PlaceWritten rows commands) ∧
    (∀ row command, Write.update config row = .ok command → PlaceWritten row command) ∧
    (∀ scripts? made, Write.upsert schema rows scripts? = .ok made →
      List.Forall₂ (KeyWritten config) rows made) ∧
    ∀ operation scripts options made, Write.bulk schema operation rows scripts options = .ok made →
      List.Forall₂ (KeyWritten config) rows made := by
  refine ⟨?_, ?_, ?_, ?_⟩
  · intro commands hinsert
    exact (Write.insert_storedAs hinsert).imp fun _ _ hstored => hstored.placeWritten
  · intro row command hupdate
    exact (Write.store_eq_ok_iff.mp hupdate).placeWritten
  · intro scripts? made hmade
    exact (Write.upsert_comeFrom hmade).imp fun _ _ hfrom => hfrom.keyWritten config
  · intro operation scripts options made hmade
    obtain ⟨operation, hmade⟩ := Write.bulk_comeFrom hmade
    exact hmade.imp fun _ _ hfrom => hfrom.keyWritten config

/-- A row that is placed by its key and has an id as well. -/
def keyedAuthor : Row :=
  .ofList [("_key", .text "people::1"), ("_id", .int 1), ("name", .text "Ada")]

theorem keyed_author_written :
    (∃ command, Write.update {} keyedAuthor = .ok command ∧ PlaceWritten keyedAuthor command) ∧
    ∃ made, Write.upsert Write.people [keyedAuthor] none = .ok made ∧
      List.Forall₂ (KeyWritten {}) [keyedAuthor] made := by
  obtain ⟨-, hupdate, hupsert, -⟩ := reserved_written_iff {} Write.people [keyedAuthor]
  exact ⟨⟨_, rfl, hupdate keyedAuthor _ rfl⟩, _, rfl, hupsert none _ rfl⟩

/-- An id besides the key is written as an attribute of the document. -/
theorem keyed_author_id_written :
    Write.insert {} [keyedAuthor] =
        .ok [.ofTexts "HSET" ["people::1", "_id", "1", "name", "Ada"]] ∧
      ∃ name ∈ Row.reserved, name ∈
        (Command.ofTexts "HSET" ["people::1", "_id", "1", "name", "Ada"]).writtenNames 1 :=
  ⟨rfl, by decide⟩

end FullText
