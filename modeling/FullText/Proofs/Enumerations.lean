import FullText.Proofs.Query.Rewriting
import FullText.Proofs.Write.Entries
import FullText.Request

/-!
Enumerations are transparent. A member of an enumeration stands for another value, and whoever
reads the one reads the other: neither a search nor a write can tell whether the values in it are
resolved, at whatever depth of lists and enumerations, and the places that documents are written to
are the same.
-/

namespace FullText

/-! ### Searches -/

namespace Predicate

mutual

/-- The predicate with all its operands resolved. -/
def resolved : Predicate → Predicate
  | .test column asked => .test column asked.resolved
  | .raw query => .raw query
  | .nested clauses => .nested (resolvedClauses clauses)

def resolvedClauses : List (Joined Predicate) → List (Joined Predicate)
  | [] => []
  | clause :: clauses => resolvedClause clause :: resolvedClauses clauses

def resolvedClause : Joined Predicate → Joined Predicate
  | { junction, predicate } => { junction, predicate := predicate.resolved }

end

mutual

/-- Resolving the operands of a predicate rewrites its tests. -/
theorem rewritten_resolved : (predicate : Predicate) →
    predicate.Rewritten (fun asked other => other = asked.resolved) predicate.resolved
  | .test column asked => by
      rw [resolved]
      exact .test column rfl
  | .raw query => by
      rw [resolved]
      exact .same (.raw query)
  | .nested clauses => by
      rw [resolved]
      exact .nested (rewritten_resolvedClauses clauses)

theorem rewritten_resolvedClauses : (clauses : List (Joined Predicate)) →
    ClausesRewritten (fun asked other => other = asked.resolved) clauses (resolvedClauses clauses)
  | [] => by
      rw [resolvedClauses]
      exact .nil
  | { junction, predicate } :: clauses => by
      rw [resolvedClauses, resolvedClause]
      exact .cons junction (rewritten_resolved predicate) (rewritten_resolvedClauses clauses)

end

end Predicate

/-- The request with the values in its clauses resolved. -/
def Request.resolved (request : Request) : Request :=
  { request with clauses := Predicate.resolvedClauses request.clauses }

theorem Query.ofClauses_resolved (schema : Schema) (config : Config) (clauses : List Clause) :
    ofClauses schema config (Predicate.resolvedClauses clauses) =
      ofClauses schema config clauses := by
  have halike : CompilesAlike schema config fun asked other => other = asked.resolved := by
    rintro column asked _ rfl
    exact (ofTest_resolved config column asked schema).symm
  exact (ofClauses_rewritten halike (Predicate.rewritten_resolvedClauses clauses)).symm

/-! ### Rows -/

namespace Row

/-- The row with its values resolved. -/
def resolved (row : Row) : Row :=
  row.map Value.resolved

variable (row : Row) (name : String)

theorem identifier?_resolved :
    Row.identifier? (Row.resolved row) name = Row.identifier? row name := by
  rw [identifier?, identifier?, resolved, OrderedMap.get?_map]
  cases row.get? name with
  | none => rfl
  | some v => simp only [Option.map_some, Option.bind_some, Value.render?_resolved]

theorem erase_resolved : (Row.resolved row).erase name = Row.resolved (row.erase name) :=
  OrderedMap.erase_map Value.resolved row name

theorem pairs_resolved (nullSentinel : String) :
    Row.pairs nullSentinel (Row.resolved row) = Row.pairs nullSentinel row := by
  rw [pairs, pairs, resolved, OrderedMap.map, List.flatMap_map]
  simp only [Value.wireText_resolved]

end Row

/-! ### Entries -/

/-- The body with the values of its document resolved. -/
def BulkBody.resolved : BulkBody → BulkBody
  | .document doc docAsUpsert => .document (Row.resolved doc) docAsUpsert
  | .scripted script upsert scriptedUpsert => .scripted script (Row.resolved upsert) scriptedUpsert

namespace BulkEntry

/-- The entry with the values that it carries resolved. -/
def resolved (entry : BulkEntry) : BulkEntry :=
  { entry with body := entry.body.map BulkBody.resolved }

/-- The commands that carry out an entry are the same. -/
theorem commands_resolved (keySeparator nullSentinel : String) (entry : BulkEntry) :
    entry.resolved.commands keySeparator nullSentinel =
      entry.commands keySeparator nullSentinel := by
  obtain ⟨operation, id, index, body⟩ := entry
  rcases body with _ | ⟨doc, flag⟩ | ⟨script, upsert, flag⟩
  · rfl
  · have hempty : (Row.resolved doc).isEmpty = doc.isEmpty :=
      OrderedMap.isEmpty_map Value.resolved doc
    cases operation <;>
      simp [commands, resolved, BulkBody.resolved, key, Row.pairs_resolved, hempty]
  · cases operation <;> simp [commands, resolved, BulkBody.resolved, key, Row.pairs_resolved]

end BulkEntry

namespace Write

section Rows

variable (config : Config) (row : Row) (rows : List Row)

theorem store_resolved (position : Nat) :
    store config position (Row.resolved row) = store config position row := by
  rw [store, store, Row.identifier?_resolved, Row.erase_resolved, Row.pairs_resolved]

theorem insert_resolved : insert config (rows.map Row.resolved) = insert config rows := by
  rw [insert, insert, List.zipIdx_map, List.mapM_map]
  simp only [Function.comp_def, Prod.map, store_resolved, id]

theorem update_resolved : update config (Row.resolved row) = update config row :=
  store_resolved config row 0

end Rows

section Entries

variable (schema : Schema) (operation : BulkOperation) (options : BulkOptions)
  (missing : Nat → Error) (scripts : List Script)

theorem carried_resolved (script? : Option Script) (left : Row) :
    carried operation options script? (Row.resolved left) =
      (carried operation options script? left).map BulkBody.resolved := by
  unfold carried
  split
  case isTrue => rfl
  case isFalse => cases script? <;> rfl

/-- The entry of a resolved row is the resolved entry of the row. -/
theorem entryAt_resolved (row : Row) (position : Nat) :
    entryAt schema operation options missing scripts (Row.resolved row, position) =
      (entryAt schema operation options missing scripts (row, position)).map
        BulkEntry.resolved := by
  rw [entryAt, entryAt, entry?_eq_map, entry?_eq_map, Row.identifier?_resolved]
  cases Row.identifier? row "_id" with
  | none => rfl
  | some id =>
      apply congrArg Except.ok
      rw [entryOf, Row.identifier?_resolved, Row.erase_resolved, Row.erase_resolved,
        carried_resolved]
      rfl

theorem entries_resolved (rows : List Row) :
    entries schema operation options missing (rows.map Row.resolved) scripts =
      (entries schema operation options missing rows scripts).map
        (List.map BulkEntry.resolved) := by
  rw [entries_eq_mapM, entries_eq_mapM, List.zipIdx_map]
  exact mapM_map_eq_map (fun (row, position) =>
    entryAt_resolved schema operation options missing scripts row position) rows.zipIdx

theorem upsert_resolved (rows : List Row) (scripts? : Option (List Script)) :
    upsert schema (rows.map Row.resolved) scripts? =
      (upsert schema rows scripts?).map (List.map BulkEntry.resolved) := by
  rw [upsert_eq_entries, upsert_eq_entries, entries_resolved, List.length_map]
  cases scripts? with
  | none => rfl
  | some scripts =>
      dsimp only
      split
      case isTrue => rfl
      case isFalse => rfl

theorem bulk_resolved (name : String) (rows : List Row) :
    bulk schema name (rows.map Row.resolved) scripts options =
      (bulk schema name rows scripts options).map (List.map BulkEntry.resolved) := by
  rw [bulk_eq_entries, bulk_eq_entries, List.length_map]
  refine (bind_congr fun operation => ?_).trans (map_bind _ _ _).symm
  cases scriptIssue? operation scripts rows.length with
  | some issue => rfl
  | none => exact entries_resolved schema operation options .missingDocumentId scripts rows

theorem lower_resolved (config : Config) (made : List BulkEntry) :
    lower config (made.map BulkEntry.resolved) = lower config made := by
  rw [lower, lower, List.flatMap_map]
  simp only [BulkEntry.commands_resolved]

/-- Resolved entries are lowered to the commands that the entries are lowered to. -/
theorem map_lower_resolved (config : Config) (made : Except Error (List BulkEntry)) :
    (made.map (List.map BulkEntry.resolved)).map (lower config) = made.map (lower config) := by
  cases made with
  | error e => rfl
  | ok entries => exact congrArg Except.ok (lower_resolved config entries)

end Entries

end Write

/-- Nothing that a request or a row is turned into tells whether the values in it are resolved: the
queries, the commands that write rows and all errors are the same. -/
theorem enumerations_transparent (schema : Schema) (config : Config) (request : Request)
    (rows : List Row) :
    Query.ofClauses schema config request.resolved.clauses =
        Query.ofClauses schema config request.clauses ∧
      Write.insert config (rows.map Row.resolved) = Write.insert config rows ∧
      (∀ row, Write.update config (Row.resolved row) = Write.update config row) ∧
      (∀ scripts?, (Write.upsert schema (rows.map Row.resolved) scripts?).map (Write.lower config) =
        (Write.upsert schema rows scripts?).map (Write.lower config)) ∧
      ∀ operation scripts options,
        (Write.bulk schema operation (rows.map Row.resolved) scripts options).map
            (Write.lower config) =
          (Write.bulk schema operation rows scripts options).map (Write.lower config) := by
  refine ⟨Query.ofClauses_resolved schema config request.clauses,
    Write.insert_resolved config rows, Write.update_resolved config, ?_, ?_⟩
  · intro scripts?
    rw [Write.upsert_resolved, Write.map_lower_resolved]
  · intro operation scripts options
    rw [Write.bulk_resolved, Write.map_lower_resolved]

end FullText
