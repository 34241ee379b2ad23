import FullText.Proofs.Write.Entries
import FullText.Proofs.Write.Identifiers

/-!
Bulk writes. What a bulk write needs is said without its checks: an operation that exists, scripts
for an update only and then one for each row, and an id in every row. With all of that each row has
its entry, in order; without it, the first check that fails decides the error.
-/

namespace FullText

/-! ### Operations by their names -/

namespace BulkOperation

def names : List String :=
  ["create", "index", "update", "delete"]

theorem name_inj : Function.Injective name := by
  intro operation other
  cases operation <;> cases other <;> simp [name]

theorem name_eq_update_iff {operation : BulkOperation} :
    operation.name = "update" ↔ operation = .update :=
  name_inj.eq_iff' rfl

theorem name_eq_delete_iff {operation : BulkOperation} :
    operation.name = "delete" ↔ operation = .delete :=
  name_inj.eq_iff' rfl

theorem ofName_eq_ok_iff {name : String} {operation : BulkOperation} :
    ofName name = .ok operation ↔ operation.name = name := by
  unfold ofName
  constructor
  · intro hok
    split at hok
    case h_1 found hfound =>
      cases hok
      have hname := List.find?_some hfound
      exact eq_of_beq hname
    case h_2 => cases hok
  · rintro rfl
    cases operation <;> rfl

theorem mem_names_iff {name : String} :
    name ∈ names ↔ ∃ operation : BulkOperation, operation.name = name := by
  constructor
  · intro hname
    have hmem : name ∈ all.map BulkOperation.name := hname
    obtain ⟨operation, -, rfl⟩ := List.mem_map.mp hmem
    exact ⟨operation, rfl⟩
  · rintro ⟨operation, rfl⟩
    cases operation <;> decide

theorem ofName_eq_error_iff {name : String} {error : Error} :
    ofName name = .error error ↔ name ∉ names ∧ error = .unsupportedBulkOperation name := by
  rw [mem_names_iff]
  simp only [← ofName_eq_ok_iff]
  unfold ofName
  split
  case h_1 => simp
  case h_2 => simp [eq_comm]

end BulkOperation

namespace Write

/-! ### What a bulk write is -/

/-- The scripts of a bulk write fit its operation and its rows: there are none, or it is an update
and there are as many as rows. -/
def ScriptsFit (name : String) (rows : List Row) (scripts : List Script) : Prop :=
  scripts = [] ∨ name = "update" ∧ scripts.length = rows.length

/-- A bulk write that can be carried out. -/
structure BulkAccepted (name : String) (rows : List Row) (scripts : List Script) : Prop where
  operation : name ∈ BulkOperation.names
  scripts_fit : ScriptsFit name rows scripts
  ids : ∀ row ∈ rows, ∃ id, Row.Names row "_id" id

/-- What an entry carries: nothing if it deletes its document, and else what is left of the row, with
a script if there is one. -/
inductive Carries (name : String) (options : BulkOptions) (left : Row) :
    Option Script → Option BulkBody → Prop where
  | nothing {script? : Option Script} (hdelete : name = "delete") :
      Carries name options left script? none
  | document (hname : name ≠ "delete") :
      Carries name options left none (some (.document left options.docAsUpsert))
  | script (script : Script) (hname : name ≠ "delete") :
      Carries name options left (some script) (some (.scripted script left options.scriptedUpsert))

/-- The entry of a row in a bulk write. The index is the one that the row names, or else that of the
schema. -/
structure Assembled (schema : Schema) (name : String) (options : BulkOptions)
    (script? : Option Script) (row : Row) (entry : BulkEntry) : Prop where
  operation : entry.operation.name = name
  id : Row.Names row "_id" entry.id
  index : Row.Names row "_index" entry.index ∨
    (∀ index, ¬Row.Names row "_index" index) ∧ entry.index = schema.name
  body : Carries name options (Row.without row ["_id", "_index"]) script? entry.body

/-- The error of a bulk write that is refused. Each error stands for a check that fails, after those
before it have not. -/
inductive BulkRefused (name : String) (rows : List Row) (scripts : List Script) : Error → Prop where
  | operation (hname : name ∉ BulkOperation.names) :
      BulkRefused name rows scripts (.unsupportedBulkOperation name)
  | scriptOperation (hname : name ∈ BulkOperation.names) (hscripts : scripts ≠ [])
      (hupdate : name ≠ "update") :
      BulkRefused name rows scripts (.scriptOperationMismatch name)
  | scriptCount (hupdate : name = "update") (hscripts : scripts ≠ [])
      (hcount : scripts.length ≠ rows.length) :
      BulkRefused name rows scripts (.scriptCountMismatch scripts.length rows.length)
  | id {position : Nat} (hname : name ∈ BulkOperation.names) (hfit : ScriptsFit name rows scripts)
      (hfirst : FirstUnnamed "_id" rows position) :
      BulkRefused name rows scripts (.missingDocumentId position)

/-! ### Scripts -/

section Scripts

variable {operation : BulkOperation} {rows : List Row} {scripts : List Script}

theorem scriptIssue?_eq_none_iff :
    scriptIssue? operation scripts rows.length = none ↔ ScriptsFit operation.name rows scripts := by
  rw [scriptIssue?, ScriptsFit, BulkOperation.name_eq_update_iff]
  cases scripts with
  | nil => simp
  | cons script scripts => by_cases hupdate : operation = .update <;> simp [hupdate]

theorem scriptIssue?_eq_some_iff {error : Error} :
    scriptIssue? operation scripts rows.length = some error ↔ scripts ≠ [] ∧
      (operation ≠ .update ∧ error = .scriptOperationMismatch operation.name ∨
        operation = .update ∧ scripts.length ≠ rows.length ∧
          error = .scriptCountMismatch scripts.length rows.length) := by
  rw [scriptIssue?]
  cases scripts with
  | nil => simp
  | cons script scripts => by_cases hupdate : operation = .update <;> simp [hupdate, eq_comm]

end Scripts

/-! ### Entries -/

section Entries

variable {schema : Schema} {operation : BulkOperation} {options : BulkOptions}
  {missing : Nat → Error} {scripts : List Script}

theorem carried_iff (script? : Option Script) (left : Row) (body : Option BulkBody) :
    carried operation options script? left = body ↔
      Carries operation.name options left script? body := by
  have hdelete := @BulkOperation.name_eq_delete_iff operation
  unfold carried
  constructor
  · rintro rfl
    split
    case isTrue h => exact .nothing (hdelete.mpr h)
    case isFalse h =>
      cases script? with
      | none => exact .document (h ∘ hdelete.mp)
      | some script => exact .script script (h ∘ hdelete.mp)
  · rintro (h | h | ⟨script, h⟩)
    · rw [if_pos (hdelete.mp h)]
    · rw [if_neg (h ∘ hdelete.mpr)]
      rfl
    · rw [if_neg (h ∘ hdelete.mpr)]
      rfl

theorem index_iff {row : Row} {index : String} :
    (Row.identifier? row "_index").getD schema.name = index ↔
      Row.Names row "_index" index ∨
        (∀ other, ¬Row.Names row "_index" other) ∧ index = schema.name := by
  rw [← Row.identifier?_eq_none_iff, ← Row.identifier?_eq_some_iff]
  cases Row.identifier? row "_index" with
  | none => simp [eq_comm]
  | some text => simp

/-- The entry of a row is all that it is to be, and nothing else is. -/
theorem assembled_iff {script? : Option Script} {row : Row} {entry : BulkEntry} :
    (∃ id, Row.identifier? row "_id" = some id ∧
      entryOf schema operation (carried operation options script?) row id = entry) ↔
      Assembled schema operation.name options script? row entry := by
  have hleft : Row.without row ["_id", "_index"] = (row.erase "_id").erase "_index" := by
    rw [Row.without_cons, Row.without_singleton]
  constructor
  · rintro ⟨id, hid, rfl⟩
    refine ⟨rfl, Row.identifier?_eq_some_iff.mp hid, index_iff.mp rfl, ?_⟩
    rw [hleft]
    exact (carried_iff _ _ _).mp rfl
  · rintro ⟨hoperation, hid, hindex, hbody⟩
    rw [hleft, ← carried_iff] at hbody
    refine ⟨entry.id, Row.identifier?_eq_some_iff.mpr hid, ?_⟩
    rw [entryOf, index_iff.mpr hindex, hbody, ← BulkOperation.name_inj hoperation]

theorem entries_assembled_iff {rows : List Row} {made : List BulkEntry} :
    entries schema operation options missing rows scripts = .ok made ↔
      made.length = rows.length ∧ ∀ (position : Nat) row entry, rows[position]? = some row →
        made[position]? = some entry →
          Assembled schema operation.name options scripts[position]? row entry := by
  rw [entries_eq_ok_iff, forall₂_zipIdx_iff]
  simp only [assembled_iff]

end Entries

/-! ### Bulk writes taken apart -/

section Bulk

variable {schema : Schema} {name : String} {rows : List Row} {scripts : List Script}
  {options : BulkOptions}

theorem bulk_eq_ok_iff {made : List BulkEntry} :
    bulk schema name rows scripts options = .ok made ↔ ∃ operation : BulkOperation,
      operation.name = name ∧ ScriptsFit name rows scripts ∧
        entries schema operation options .missingDocumentId rows scripts = .ok made := by
  rw [bulk_eq_entries, bind_eq_ok_iff]
  refine exists_congr fun operation => ?_
  rw [BulkOperation.ofName_eq_ok_iff]
  refine and_congr_right ?_
  rintro rfl
  rw [← scriptIssue?_eq_none_iff]
  cases scriptIssue? operation scripts rows.length with
  | none => simp
  | some issue => simp

theorem bulk_eq_error_iff {error : Error} :
    bulk schema name rows scripts options = .error error ↔
      BulkOperation.ofName name = .error error ∨ ∃ operation : BulkOperation,
        operation.name = name ∧ (scriptIssue? operation scripts rows.length = some error ∨
          ScriptsFit name rows scripts ∧
            entries schema operation options .missingDocumentId rows scripts = .error error) := by
  rw [bulk_eq_entries, bind_eq_error_iff]
  refine or_congr_right (exists_congr fun operation => ?_)
  rw [BulkOperation.ofName_eq_ok_iff]
  refine and_congr_right ?_
  rintro rfl
  rw [← scriptIssue?_eq_none_iff]
  cases scriptIssue? operation scripts rows.length with
  | none => simp
  | some issue => simp

/-- A bulk write succeeds exactly when it can be carried out. -/
theorem bulk_accepted_iff :
    (∃ made, bulk schema name rows scripts options = .ok made) ↔
      BulkAccepted name rows scripts := by
  constructor
  · rintro ⟨made, hbulk⟩
    obtain ⟨operation, rfl, hfit, hentries⟩ := bulk_eq_ok_iff.mp hbulk
    exact ⟨BulkOperation.mem_names_iff.mpr ⟨operation, rfl⟩, hfit,
      entryAt_tells.exists_mapM_ok_iff.mp ⟨made, hentries⟩⟩
  · rintro ⟨hname, hfit, hids⟩
    obtain ⟨operation, hoperation⟩ := BulkOperation.mem_names_iff.mp hname
    obtain ⟨made, hentries⟩ := entryAt_tells.exists_mapM_ok_iff.mpr hids
    exact ⟨made, bulk_eq_ok_iff.mpr ⟨operation, hoperation, hfit, hentries⟩⟩

/-- A bulk write is refused exactly by the first of its checks that fails. -/
theorem bulk_refused_iff {error : Error} :
    bulk schema name rows scripts options = .error error ↔ BulkRefused name rows scripts error := by
  rw [bulk_eq_error_iff]
  constructor
  · rintro (hunknown | ⟨operation, rfl, hissue | ⟨hfit, hentries⟩⟩)
    · obtain ⟨hname, rfl⟩ := BulkOperation.ofName_eq_error_iff.mp hunknown
      exact .operation hname
    · obtain ⟨hscripts, ⟨hupdate, rfl⟩ | ⟨rfl, hcount, rfl⟩⟩ := scriptIssue?_eq_some_iff.mp hissue
      · exact .scriptOperation (BulkOperation.mem_names_iff.mpr ⟨operation, rfl⟩) hscripts
          (hupdate ∘ BulkOperation.name_eq_update_iff.mp)
      · exact .scriptCount rfl hscripts hcount
    · obtain ⟨position, hfirst, rfl⟩ := entryAt_tells.firstUnnamed.mp hentries
      exact .id (BulkOperation.mem_names_iff.mpr ⟨operation, rfl⟩) hfit hfirst
  · intro hrefused
    cases hrefused with
    | operation hname => exact .inl (BulkOperation.ofName_eq_error_iff.mpr ⟨hname, rfl⟩)
    | scriptOperation hname hscripts hupdate =>
        obtain ⟨operation, rfl⟩ := BulkOperation.mem_names_iff.mp hname
        refine .inr ⟨operation, rfl, .inl (scriptIssue?_eq_some_iff.mpr ⟨hscripts, .inl ⟨?_, rfl⟩⟩)⟩
        exact hupdate ∘ BulkOperation.name_eq_update_iff.mpr
    | scriptCount hupdate hscripts hcount =>
        refine .inr ⟨.update, hupdate.symm, .inl (scriptIssue?_eq_some_iff.mpr ⟨hscripts, .inr ?_⟩)⟩
        exact ⟨rfl, hcount, rfl⟩
    | id hname hfit hfirst =>
        obtain ⟨operation, rfl⟩ := BulkOperation.mem_names_iff.mp hname
        exact .inr ⟨operation, rfl, .inr ⟨hfit, entryAt_tells.firstUnnamed.mpr ⟨_, hfirst, rfl⟩⟩⟩

end Bulk

/-- Bulk writes are assembled row by row. A bulk write succeeds exactly when its operation exists, its
scripts fit and every row has an id; then there is one entry for each row, in order, and the scripts
are paired with the rows. Otherwise there are no entries, and the first check that fails is told: the
operation, scripts for another operation than an update, their number, or the first row without an
id. -/
theorem bulk_assembled (schema : Schema) (name : String) (rows : List Row) (scripts : List Script)
    (options : BulkOptions) :
    ((∃ made, bulk schema name rows scripts options = .ok made) ↔
      BulkAccepted name rows scripts) ∧
    (∀ made, bulk schema name rows scripts options = .ok made ↔ BulkAccepted name rows scripts ∧
      made.length = rows.length ∧ ∀ (position : Nat) row entry, rows[position]? = some row →
        made[position]? = some entry →
          Assembled schema name options scripts[position]? row entry) ∧
    ∀ error, bulk schema name rows scripts options = .error error ↔
      BulkRefused name rows scripts error := by
  refine ⟨bulk_accepted_iff, fun made => ?_, fun error => bulk_refused_iff⟩
  constructor
  · intro hbulk
    obtain ⟨operation, rfl, -, hentries⟩ := bulk_eq_ok_iff.mp hbulk
    exact ⟨bulk_accepted_iff.mp ⟨made, hbulk⟩, entries_assembled_iff.mp hentries⟩
  · rintro ⟨hall, hmade⟩
    obtain ⟨operation, rfl⟩ := BulkOperation.mem_names_iff.mp hall.operation
    exact bulk_eq_ok_iff.mpr ⟨operation, rfl, hall.scripts_fit, entries_assembled_iff.mpr hmade⟩

/-- An update of authors by scripts, and writes that are refused: one of an operation that takes no
scripts although a row has no id either, and one whose second row has no id. -/
theorem authors_assembled :
    BulkAccepted "update" authors authorScripts ∧
    BulkRefused "index" (authors ++ [∅]) authorScripts (.scriptOperationMismatch "index") ∧
    BulkRefused "delete" (authors.take 1 ++ [∅, ∅]) [] (.missingDocumentId 1) := by
  obtain ⟨haccepted, -, -⟩ := bulk_assembled people "update" authors authorScripts {}
  obtain ⟨-, -, hindex⟩ := bulk_assembled people "index" (authors ++ [∅]) authorScripts {}
  obtain ⟨-, -, hdelete⟩ := bulk_assembled people "delete" (authors.take 1 ++ [∅, ∅]) [] {}
  exact ⟨haccepted.mp ⟨_, rfl⟩, (hindex _).mp rfl, (hdelete _).mp rfl⟩

end Write

end FullText
