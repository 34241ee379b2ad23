import FullText.Proofs.Except
import FullText.Proofs.OrderedMap
import FullText.Proofs.Write.Identifiers
import FullText.Write

/-!
What rows become. A row under its own key becomes one command. Rows that are upserted and rows that
are written in bulk become entries, in loops of their own, which come to the same: either the first
row without an id is refused, or every row has an entry, made of its id, its index, the script at its
position and the attributes that are left.
-/

namespace FullText

/-! ### Attributes -/

namespace Row

/-- The attributes of a row with their texts. -/
def texts (nullSentinel : String) (row : Row) : List (String × String) :=
  row.entries.map fun (name, value) => (name, value.wireText nullSentinel)

theorem pairs_eq_flat (nullSentinel : String) (row : Row) : Row.pairs nullSentinel row =
    (Row.texts nullSentinel row).flatMap fun (name, text) => [name, text] := by
  rw [pairs, texts, List.flatMap_map]

theorem length_pairs (nullSentinel : String) (row : Row) :
    (Row.pairs nullSentinel row).length = 2 * row.size := by
  rw [pairs_eq_flat, length_flat, texts, List.length_map]
  rfl

/-- The attribute at a position takes the two places at twice the position. -/
theorem getElem?_pairs (nullSentinel : String) (row : Row) (k : Nat) :
    (Row.pairs nullSentinel row)[2 * k]? = row.entries[k]?.map (·.1) ∧
      (Row.pairs nullSentinel row)[2 * k + 1]? =
        row.entries[k]?.map (·.2.wireText nullSentinel) := by
  obtain ⟨hname, htext⟩ := getElem?_flat (texts nullSentinel row) k
  rw [pairs_eq_flat, hname, htext, texts, List.getElem?_map, Option.map_map, Option.map_map]
  exact ⟨rfl, rfl⟩

theorem texts_eq_nil_iff {nullSentinel : String} {row : Row} :
    Row.texts nullSentinel row = [] ↔ row.names = [] := by
  rw [texts, OrderedMap.names, List.map_eq_nil_iff, List.map_eq_nil_iff]

end Row

namespace Write

/-! ### Rows under their own keys -/

/-- A row that names a key becomes the command that sets its other attributes there. -/
def StoredAs (config : Config) (row : Row) (command : Command) : Prop :=
  ∃ key, Row.identifier? row "_key" = some key ∧
    .ofTexts "HSET" (key :: Row.pairs config.nullSentinel (row.erase "_key")) = command

theorem store_eq_ok_iff {config : Config} {position : Nat} {row : Row} {command : Command} :
    store config position row = .ok command ↔ StoredAs config row command := by
  unfold store StoredAs
  cases Row.identifier? row "_key" with
  | none => simp
  | some key => simp

theorem insert_storedAs {config : Config} {rows : List Row} {commands : List Command}
    (hinsert : insert config rows = .ok commands) :
    List.Forall₂ (StoredAs config) rows commands := by
  refine (mapM_zipIdx_eq_ok hinsert).imp ?_
  rintro row command ⟨position, hstore⟩
  exact store_eq_ok_iff.mp hstore

/-! ### Rows with ids -/

theorem hasId_eq (row : Row) : hasId row = (Row.identifier? row "_id").isSome :=
  Option.isSome_filter.symm

/-- The entry of a row with an id. -/
def entryOf (schema : Schema) (operation : BulkOperation) (body : Row → Option BulkBody) (row : Row)
    (id : String) : BulkEntry where
  operation
  id
  index := (Row.identifier? row "_index").getD schema.name
  body := body ((row.erase "_id").erase "_index")

theorem entry?_eq_map (schema : Schema) (operation : BulkOperation) (body : Row → Option BulkBody)
    (row : Row) : entry? schema operation body row =
      (Row.identifier? row "_id").map (entryOf schema operation body row) := by
  have hindex : Row.identifier? (row.erase "_id") "_index" = Row.identifier? row "_index" := by
    rw [Row.identifier?, Row.identifier?, OrderedMap.get?_erase, if_neg (by decide)]
  unfold entry?
  cases Row.identifier? row "_id" with
  | none => rfl
  | some id =>
      change some _ = some _
      rw [hindex]
      rfl

/-- What an entry carries: nothing if it deletes its document, and else the row that is left, with a
script if there is one. -/
def carried (operation : BulkOperation) (options : BulkOptions) (script? : Option Script) :
    Row → Option BulkBody :=
  if operation = .delete then fun _ => none else fun left => some (body options script? left)

variable (schema : Schema) (operation : BulkOperation) (options : BulkOptions)
  (missing : Nat → Error) (scripts : List Script)

/-- The entry of the row at a position. -/
def entryAt : Row × Nat → Except Error BulkEntry
  | (row, position) =>
    match entry? schema operation (carried operation options scripts[position]?) row with
    | some entry => .ok entry
    | none => .error (missing position)

theorem entries_eq_mapM (rows : List Row) :
    entries schema operation options missing rows scripts =
      rows.zipIdx.mapM (entryAt schema operation options missing scripts) :=
  rfl

variable {schema operation options missing scripts}

theorem entryAt_eq_ok_iff {row : Row} {position : Nat} {entry : BulkEntry} :
    entryAt schema operation options missing scripts (row, position) = .ok entry ↔
      ∃ id, Row.identifier? row "_id" = some id ∧
        entryOf schema operation (carried operation options scripts[position]?) row id = entry := by
  rw [entryAt, entry?_eq_map]
  cases Row.identifier? row "_id" with
  | none => simp
  | some id => simp

/-- An entry is made of each row that names its id. -/
theorem entryAt_tells :
    TellsPosition (entryAt schema operation options missing scripts)
      (fun row => ∃ id, Row.Names row "_id" id) missing where
  of_readable := by
    rintro row position ⟨id, hid⟩
    exact ⟨_, entryAt_eq_ok_iff.mpr ⟨id, Row.identifier?_eq_some_iff.mpr hid, rfl⟩⟩
  of_unreadable := by
    intro row position hnone
    rw [entryAt, entry?_eq_map, Row.identifier?_eq_none_iff.mpr (not_exists.mp hnone)]
    rfl

/-! ### All rows -/

/-- The first row without an id is refused. -/
theorem entries_eq_error {rows : List Row} {first : Nat}
    (hfirst : rows.findIdx? (fun row => !hasId row) = some first) :
    entries schema operation options missing rows scripts = .error (missing first) := by
  simp only [hasId_eq, Option.not_isSome] at hfirst
  exact entryAt_tells.firstUnnamed.mpr ⟨first, .of_findIdx? hfirst, rfl⟩

theorem entries_eq_ok_iff {rows : List Row} {made : List BulkEntry} :
    entries schema operation options missing rows scripts = .ok made ↔
      List.Forall₂ (fun (row, position) entry => ∃ id, Row.identifier? row "_id" = some id ∧
        entryOf schema operation (carried operation options scripts[position]?) row id = entry)
        rows.zipIdx made := by
  rw [entries_eq_mapM, mapM_eq_ok_iff]
  constructor
  · intro hmade
    exact hmade.imp fun _ _ => entryAt_eq_ok_iff.mp
  · intro hmade
    exact hmade.imp fun _ _ => entryAt_eq_ok_iff.mpr

/-! ### The loop of an upsert -/

/-- Scripts that are used up one by one are the scripts at the positions of the rows. -/
theorem upsertFrom_eq_mapM (schema : Schema) (scripts : List Script) (rows : List Row)
    (position : Nat) : upsertFrom schema position rows (scripts.drop position) =
      (rows.zipIdx position).mapM (entryAt schema .update
        { docAsUpsert := true, scriptedUpsert := true } .missingUpsertIdentifier scripts) := by
  induction rows generalizing position with
  | nil => rfl
  | cons row rows ih =>
      rw [upsertFrom, List.head?_drop, List.tail_drop, ih, List.zipIdx_cons, List.mapM_cons]
      have hcarried : (fun left => some (body { docAsUpsert := true, scriptedUpsert := true }
          scripts[position]? left)) = carried .update
            { docAsUpsert := true, scriptedUpsert := true } scripts[position]? := rfl
      simp only [entryAt, hcarried]
      cases entry? schema .update _ row <;> rfl

/-- Looking at all ids beforehand refuses no row that the loop would not refuse. -/
theorem upsertFrom_checked (schema : Schema) (rows : List Row) (scripts : List Script) :
    (do
      if let some position := rows.findIdx? fun row => !hasId row then
        throw (.missingUpsertIdentifier position)
      upsertFrom schema 0 rows scripts) =
        entries schema .update { docAsUpsert := true, scriptedUpsert := true }
          .missingUpsertIdentifier rows scripts := by
  cases hfirst : rows.findIdx? fun row => !hasId row with
  | none => exact upsertFrom_eq_mapM schema scripts rows 0
  | some first => exact (entries_eq_error hfirst).symm

theorem upsert_eq_entries (schema : Schema) (rows : List Row) (scripts? : Option (List Script)) :
    upsert schema rows scripts? = (do
      if let some scripts := scripts? then
        if scripts.length ≠ rows.length then
          throw (.scriptCountMismatch scripts.length rows.length)
      entries schema .update { docAsUpsert := true, scriptedUpsert := true }
        .missingUpsertIdentifier rows (scripts?.getD [])) := by
  have hchecked := upsertFrom_checked schema rows (scripts?.getD [])
  unfold upsert
  cases scripts? with
  | none => exact hchecked
  | some scripts =>
      dsimp only
      split
      case isTrue => rfl
      case isFalse => exact hchecked

/-- What is wrong with the scripts of a bulk write: an operation that takes none is given some, or
there are not as many as rows. -/
def scriptIssue? (operation : BulkOperation) (scripts : List Script) (rows : Nat) : Option Error :=
  if scripts.isEmpty then none
  else if operation ≠ .update then some (.scriptOperationMismatch operation.name)
  else if scripts.length ≠ rows then some (.scriptCountMismatch scripts.length rows)
  else none

theorem bulk_eq_entries (schema : Schema) (name : String) (rows : List Row) (scripts : List Script)
    (options : BulkOptions) :
    bulk schema name rows scripts options = BulkOperation.ofName name >>= fun operation =>
      match scriptIssue? operation scripts rows.length with
      | some issue => .error issue
      | none => entries schema operation options .missingDocumentId rows scripts := by
  unfold bulk
  apply bind_congr
  intro operation
  cases scripts with
  | nil => rfl
  | cons script scripts =>
      simp only [scriptIssue?, List.isEmpty_cons, Bool.not_false, if_true, Bool.false_eq_true,
        if_false]
      by_cases hupdate : operation ≠ .update
      · rw [if_pos hupdate, if_pos hupdate]
        rfl
      · rw [if_neg hupdate, if_neg hupdate]
        by_cases hlength : (script :: scripts).length ≠ rows.length
        · rw [if_pos hlength, if_pos hlength]
          rfl
        · rw [if_neg hlength, if_neg hlength]

/-! ### What entries come from -/

/-- An entry comes from a row with an id, and from one of the scripts if it carries any. -/
def ComesFrom (schema : Schema) (operation : BulkOperation) (options : BulkOptions)
    (scripts : List Script) (row : Row) (entry : BulkEntry) : Prop :=
  ∃ id script?, Row.identifier? row "_id" = some id ∧ (∀ script ∈ script?, script ∈ scripts) ∧
    entryOf schema operation (carried operation options script?) row id = entry

/-- An entry carries nothing, or what is left of its row, with a script or without. -/
theorem ComesFrom.body_cases {row : Row} {entry : BulkEntry}
    (hfrom : ComesFrom schema operation options scripts row entry) :
    entry.body = none ∨ ∃ script?, (∀ script ∈ script?, script ∈ scripts) ∧
      entry.body = some (body options script? ((row.erase "_id").erase "_index")) := by
  obtain ⟨id, script?, -, hscripts, rfl⟩ := hfrom
  simp only [entryOf, carried]
  split
  case isTrue => exact .inl rfl
  case isFalse => exact .inr ⟨script?, hscripts, rfl⟩

theorem entries_comeFrom {rows : List Row} {made : List BulkEntry}
    (hmade : entries schema operation options missing rows scripts = .ok made) :
    List.Forall₂ (ComesFrom schema operation options scripts) rows made := by
  rw [entries_eq_mapM] at hmade
  refine (mapM_zipIdx_eq_ok hmade).imp ?_
  rintro row entry ⟨position, hentry⟩
  obtain ⟨id, hid, hentry⟩ := entryAt_eq_ok_iff.mp hentry
  exact ⟨id, scripts[position]?, hid, fun _ => List.mem_of_getElem?, hentry⟩

theorem upsert_comeFrom {rows : List Row} {scripts? : Option (List Script)} {made : List BulkEntry}
    (hmade : upsert schema rows scripts? = .ok made) :
    List.Forall₂ (ComesFrom schema .update { docAsUpsert := true, scriptedUpsert := true }
      (scripts?.getD [])) rows made := by
  rw [upsert_eq_entries] at hmade
  cases scripts? with
  | none => exact entries_comeFrom hmade
  | some scripts =>
      dsimp only at hmade
      split at hmade
      case isTrue => cases hmade
      case isFalse => exact entries_comeFrom hmade

theorem bulk_comeFrom {name : String} {rows : List Row} {made : List BulkEntry}
    (hmade : bulk schema name rows scripts options = .ok made) :
    ∃ operation, List.Forall₂ (ComesFrom schema operation options scripts) rows made := by
  rw [bulk_eq_entries] at hmade
  obtain ⟨operation, -, hmade⟩ := bind_eq_ok_iff.mp hmade
  refine ⟨operation, ?_⟩
  split at hmade
  case h_1 => cases hmade
  case h_2 => exact entries_comeFrom hmade

/-! ### Upserts and bulk updates -/

/-- An upsert and a bulk write come to the same: all rows have ids and they have made the same
entries, one for each row, or they have refused the same row, which is the first one without an id,
each in its own words. -/
inductive Agree (rows : List Row) :
    Except Error (List BulkEntry) → Except Error (List BulkEntry) → Prop where
  | made {entries : List BulkEntry} (hlength : entries.length = rows.length)
      (hids : ∀ row ∈ rows, (Row.identifier? row "_id").isSome) :
      Agree rows (.ok entries) (.ok entries)
  | refused {first : Nat}
      (hfirst : rows.findIdx? (fun row => (Row.identifier? row "_id").isNone) = some first) :
      Agree rows (.error (.missingUpsertIdentifier first)) (.error (.missingDocumentId first))

theorem Agree.lowered {rows : List Row} {upserted bulked : Except Error (List BulkEntry)}
    (hagree : Agree rows upserted bulked) (config : Config) :
    upserted.toOption.map (lower config) = bulked.toOption.map (lower config) := by
  cases hagree <;> rfl

/-- Two sets of options under which every row carries the same make no difference. -/
theorem entries_agree (schema : Schema) {rows : List Row} {options others : BulkOptions}
    (hbody : ∀ position < rows.length,
      body options scripts[position]? = body others scripts[position]?) :
    Agree rows (entries schema .update options .missingUpsertIdentifier rows scripts)
      (entries schema .update others .missingDocumentId rows scripts) := by
  have hunnamed : (fun row => !hasId row) = fun row => (Row.identifier? row "_id").isNone := by
    funext row
    rw [hasId_eq, Option.not_isSome]
  cases hfirst : rows.findIdx? fun row => !hasId row with
  | some first =>
      rw [entries_eq_error hfirst, entries_eq_error hfirst]
      rw [hunnamed] at hfirst
      exact .refused hfirst
  | none =>
      have hids : ∀ row ∈ rows, (Row.identifier? row "_id").isSome := by
        intro row hrow
        have hid := List.findIdx?_eq_none_iff.mp hfirst row hrow
        rwa [hasId_eq, Option.not_isSome, Option.isNone_eq_false_iff] at hid
      have hentry : ∀ pair ∈ rows.zipIdx, ∃ entry, ∃ id, Row.identifier? pair.1 "_id" = some id ∧
          entryOf schema .update (carried .update options scripts[pair.2]?) pair.1 id = entry := by
        intro pair hpair
        obtain ⟨id, hid⟩ :=
          Option.isSome_iff_exists.mp (hids pair.1 (List.fst_mem_of_mem_zipIdx hpair))
        exact ⟨_, id, hid, rfl⟩
      obtain ⟨made, hmade⟩ := exists_forall₂_iff.mpr hentry
      have hcarried : ∀ pair ∈ rows.zipIdx, carried .update options scripts[pair.2]? =
          carried .update others scripts[pair.2]? := by
        intro pair hpair
        rw [carried, carried, hbody pair.2 (List.snd_lt_of_mem_zipIdx hpair)]
      have hothers := ((List.forall₂_and_left _ _).mpr ⟨hcarried, hmade⟩).imp
        fun pair entry ⟨hsame, hentry⟩ => hsame ▸ hentry
      rw [entries_eq_ok_iff.mpr hmade, entries_eq_ok_iff.mpr hothers]
      refine .made ?_ hids
      rw [← hmade.length_eq, List.length_zipIdx]

theorem bulk_update_eq (rows : List Row)
    (hscripts : scripts ≠ [] → scripts.length = rows.length) :
    bulk schema "update" rows scripts options =
      entries schema .update options .missingDocumentId rows scripts := by
  have hname : BulkOperation.ofName "update" = .ok .update := rfl
  have hissue : scriptIssue? .update scripts rows.length = none := by
    cases scripts with
    | nil => rfl
    | cons script scripts => simp [scriptIssue?, hscripts (List.cons_ne_nil _ _)]
  rw [bulk_eq_entries, hname]
  simp only [bind, Except.bind, hissue]

/-- An upsert is a bulk update: without scripts if documents may be brought about by the bulk write,
and with as many scripts as rows if scripts may. They make the same entries, and so the same
commands, or refuse the same row. -/
theorem upsert_is_bulk_update (schema : Schema) (rows : List Row) :
    (∀ options : BulkOptions, options.docAsUpsert = true →
      let upserted := upsert schema rows none
      let bulked := bulk schema "update" rows [] options
      Agree rows upserted bulked ∧ ∀ config,
        upserted.toOption.map (lower config) = bulked.toOption.map (lower config)) ∧
    ∀ (scripts : List Script) (options : BulkOptions), scripts.length = rows.length →
      options.scriptedUpsert = true →
      let upserted := upsert schema rows (some scripts)
      let bulked := bulk schema "update" rows scripts options
      Agree rows upserted bulked ∧ ∀ config,
        upserted.toOption.map (lower config) = bulked.toOption.map (lower config) := by
  constructor
  · intro options hoptions
    have hbody : ∀ position < rows.length,
        body { docAsUpsert := true, scriptedUpsert := true } ([] : List Script)[position]? =
          body options ([] : List Script)[position]? := by
      intro position _
      funext left
      rw [List.getElem?_nil, body, body, hoptions]
    have hagree := entries_agree schema hbody
    rw [← bulk_update_eq rows nofun] at hagree
    rw [upsert_eq_entries]
    exact ⟨hagree, hagree.lowered⟩
  · intro scripts options hlength hoptions
    have hbody : ∀ position < rows.length,
        body { docAsUpsert := true, scriptedUpsert := true } scripts[position]? =
          body options scripts[position]? := by
      intro position hposition
      funext left
      rw [List.getElem?_eq_getElem (hlength ▸ hposition), body, body, hoptions]
    have hagree := entries_agree schema hbody
    rw [← bulk_update_eq rows fun _ => hlength] at hagree
    rw [upsert_eq_entries]
    dsimp only
    rw [if_neg (not_not.mpr hlength)]
    exact ⟨hagree, hagree.lowered⟩

/-- An index of people. -/
def people : Schema :=
  { name := "people", fields := [.text "name"] }

/-- Rows of which the second one goes to an index of its own. -/
def authors : List Row :=
  [.ofList [("_id", .int 1), ("name", .text "Ada")],
    .ofList [("name", .null), ("_index", .text "archive"), ("_id", .text "2")]]

/-- A script for each of the authors. -/
def authorScripts : List Script :=
  [{ source := "return 1" }, { source := "return ARGV[1]", keys := ["archive::2"] }]

theorem authors_agree :
    let plain : BulkOptions := { docAsUpsert := true }
    let scripted : BulkOptions := { scriptedUpsert := true }
    (plain.docAsUpsert = true ∧
      Agree authors (upsert people authors none) (bulk people "update" authors [] plain)) ∧
    authorScripts.length = authors.length ∧ scripted.scriptedUpsert = true ∧
      Agree authors (upsert people authors (some authorScripts))
        (bulk people "update" authors authorScripts scripted) :=
  ⟨⟨rfl, ((upsert_is_bulk_update people authors).1 _ rfl).1⟩,
    rfl, rfl, ((upsert_is_bulk_update people authors).2 authorScripts _ rfl rfl).1⟩

end Write

/-! ### Scripts with the key of their document -/

namespace Script

variable (script : Script) (key : String)

@[simp]
theorem source_withDocumentKey : (script.withDocumentKey key).source = script.source := by
  unfold withDocumentKey
  split <;> rfl

@[simp]
theorem args_withDocumentKey : (script.withDocumentKey key).args = script.args := by
  unfold withDocumentKey
  split <;> rfl

/-- The key of the document comes first, and then the keys of the script itself, less a first one
that is the same. -/
theorem keys_withDocumentKey : ∃ own, (script.withDocumentKey key).keys = key :: own ∧
    (script.keys = key :: own ∨ script.keys = own ∧ own.head? ≠ some key) := by
  unfold withDocumentKey
  split
  case isTrue hhead =>
    obtain ⟨own, hown⟩ := List.head?_eq_some_iff.mp hhead
    exact ⟨own, hown, .inl hown⟩
  case isFalse hhead => exact ⟨script.keys, rfl, .inr ⟨rfl, hhead⟩⟩

end Script

/-! ### What entries are lowered to -/

/-- The commands that carry out an entry: a deletion, the attributes of a document that has any, or
a script with the attributes of its document. -/
inductive BulkEntry.LowersTo (keySeparator nullSentinel : String) (entry : BulkEntry) :
    Command → Prop where
  | deletion (hbody : entry.operation = .delete ∨ entry.body = none) :
      LowersTo keySeparator nullSentinel entry (.ofTexts "DEL" [entry.key keySeparator])
  | document {doc : Row} {flag : Bool} (hoperation : entry.operation ≠ .delete)
      (hbody : entry.body = some (.document doc flag)) (hne : doc.isEmpty = false) :
      LowersTo keySeparator nullSentinel entry
        (.ofTexts "HSET" (entry.key keySeparator :: Row.pairs nullSentinel doc))
  | script {script : Script} {upsert : Row} {flag : Bool} (hoperation : entry.operation ≠ .delete)
      (hbody : entry.body = some (.scripted script upsert flag)) :
      LowersTo keySeparator nullSentinel entry
        { name := "EVAL"
          args := (script.withDocumentKey (entry.key keySeparator)).compiled ++
            (Row.pairs nullSentinel upsert).map .text }

theorem BulkEntry.lowersTo_of_mem {keySeparator nullSentinel : String} {entry : BulkEntry}
    {command : Command} (hmem : command ∈ entry.commands keySeparator nullSentinel) :
    entry.LowersTo keySeparator nullSentinel command := by
  unfold commands at hmem
  dsimp only at hmem
  split at hmem
  case h_1 hoperation =>
    rw [List.mem_singleton.mp hmem]
    exact .deletion (.inl hoperation)
  case h_2 hbody _ =>
    rw [List.mem_singleton.mp hmem]
    exact .deletion (.inr hbody)
  case h_3 hbody hoperation =>
    split at hmem
    case isTrue => cases hmem
    case isFalse hne =>
      rw [List.mem_singleton.mp hmem]
      exact .document hoperation hbody (eq_false_of_ne_true hne)
  case h_4 hbody hoperation =>
    rw [List.mem_singleton.mp hmem]
    exact .script hoperation hbody

end FullText
