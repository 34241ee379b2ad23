import FullText.Proofs.Client.Calls
import FullText.Proofs.Write.Entries

/-!
Writing rows and reading documents. Rows are lowered to one command each, which sets the attributes
of the row at its key; so what is found at a key afterwards is what was there, overwritten and
continued by the rows that go there, in their order.
-/

namespace FullText

/-- How rows say where they go: the key that a row names, and the attributes that name it. -/
structure Placement where
  key? : Row → Option String
  placing : List String

namespace Placement

/-- Rows that are inserted name their key. -/
def ofInsert : Placement where
  key? row := Row.identifier? row "_key"
  placing := ["_key"]

/-- Rows that are upserted name an id, and may name an index. -/
def ofUpsert (config : Config) (schema : Schema) : Placement where
  key? row := (Row.identifier? row "_id").map fun id =>
    config.documentKey ((Row.identifier? row "_index").getD schema.name) id
  placing := ["_id", "_index"]

variable (placement : Placement) (config : Config)

/-- The attributes of a row that do not say where it goes, with their texts. -/
def attributes (row : Row) : List (String × String) :=
  (row.entries.filter fun entry => entry.1 ∉ placement.placing).map fun (name, value) =>
    (name, value.wireText config.nullSentinel)

/-- What rows write at a key. -/
def writes (key : String) (rows : List Row) : List (String × String) :=
  (rows.filter fun row => placement.key? row = some key).flatMap (placement.attributes config)

/-- What is found at a key after rows have been written over what was there before. -/
def found (key : String) (before : Option Hash) (rows : List Row) : Option Document :=
  if before.isNone ∧ ∀ row ∈ rows, placement.key? row ≠ some key then none
  else some {
    key
    fields := (OrderedMap.listing
      ((before.getD ∅).entries ++ placement.writes config key rows)).map (Client.decoded config) }

/-- A row is lowered to the command that sets its attributes at its key. -/
def Lowers (row : Row) (command : Command) : Prop :=
  ∃ key, placement.key? row = some key ∧ command = .ofTexts "HSET"
    (key :: (placement.attributes config row).flatMap fun (name, text) => [name, text])

end Placement

namespace Placement

variable {placement : Placement} {config : Config}

theorem writes_cons (key : String) (row : Row) (rows : List Row) :
    placement.writes config key (row :: rows) =
      (if placement.key? row = some key then placement.attributes config row else []) ++
        placement.writes config key rows := by
  by_cases hkey : placement.key? row = some key
  · simp [writes, hkey]
  · simp [writes, hkey]

theorem writes_eq_nil_iff {key : String} {rows : List Row}
    (hne : ∀ row ∈ rows, placement.attributes config row ≠ []) :
    placement.writes config key rows = [] ↔ ∀ row ∈ rows, placement.key? row ≠ some key := by
  induction rows with
  | nil => simp [writes]
  | cons row rows ih =>
      obtain ⟨hrow, hrows⟩ := List.forall_mem_cons.mp hne
      rw [writes_cons, List.append_eq_nil_iff, ih hrows, List.forall_mem_cons]
      by_cases hkey : placement.key? row = some key
      · simp [hkey, hrow]
      · simp [hkey]

theorem Lowers.hset {row : Row} {command : Command} (hlower : placement.Lowers config row command) :
    Text.upper command.name = "HSET" ∧ ∃ target, placement.key? row = some target ∧
      command.argTexts =
        target :: (placement.attributes config row).flatMap fun (name, text) => [name, text] := by
  obtain ⟨target, htarget, rfl⟩ := hlower
  have hcapital : Text.upper "HSET" = "HSET" := by decide
  exact ⟨hcapital, target, htarget, Command.argTexts_ofTexts _ _⟩

/-- A row without attributes is lowered to a command that no store accepts. -/
theorem Lowers.attributes_ne_nil {row : Row} {command : Command}
    {text? : String → String → Option String} (hlower : placement.Lowers config row command)
    (haccepts : Store.Accepts text? command) : placement.attributes config row ≠ [] := by
  obtain ⟨hname, target, -, hargs⟩ := hlower.hset
  obtain ⟨key, pairs, hargs', hne, -⟩ := (Store.accepts_hset_iff hname).mp haccepts
  intro hnone
  rw [hargs, hnone] at hargs'
  exact hne (List.cons.inj hargs').2.symm

theorem Lowers.leaves {row : Row} {command : Command} (hlower : placement.Lowers config row command)
    (reply : Reply) (key : String) (earlier : List (String × String)) :
    Exchange.leaves key earlier (command, .ok reply) =
      earlier ++ if placement.key? row = some key then placement.attributes config row else [] := by
  obtain ⟨hname, target, htarget, hargs⟩ := hlower.hset
  rw [Exchange.leaves, Store.leaves_hset reply key earlier hname hargs, alternating_flat, htarget]
  by_cases hkey : target = key
  · simp [hkey]
  · simp [hkey]

/-- Where every command is a success, the rows are written at their keys, and none of them is
without attributes. -/
theorem converse_lowered {rows : List Row} {commands : List Command} {store : Store}
    {exchanges : List Exchange} (hfollows : store.Follows exchanges)
    (hlowers : List.Forall₂ (placement.Lowers config) rows commands)
    (hok : ∀ exchange ∈ (Store.converse commands store).1, ∃ reply, exchange.2 = .ok reply) :
    (∀ row ∈ rows, placement.attributes config row ≠ []) ∧
      ∀ key, written key (exchanges ++ (Store.converse commands store).1) =
        written key exchanges ++ placement.writes config key rows := by
  induction hlowers generalizing store exchanges with
  | nil => simp [Store.converse, writes]
  | @cons row command rows commands hlower _ ih =>
      rw [Store.converse_cons, List.forall_mem_cons] at hok
      obtain ⟨⟨reply, hreply⟩, hrest⟩ := hok
      have hanswer : (Store.execute command store).1 = .ok reply := hreply
      have haccepts := (hfollows.execute_step command).1.ok_iff.mp ⟨reply, hanswer⟩
      obtain ⟨hothers, hwritten⟩ := ih (hfollows.execute command) hrest
      refine ⟨List.forall_mem_cons.mpr ⟨hlower.attributes_ne_nil haccepts, hothers⟩, fun key => ?_⟩
      have hkey := hwritten key
      rw [Store.written_concat, hanswer, hlower.leaves, List.append_assoc, List.append_assoc,
        List.singleton_append] at hkey
      rw [Store.converse_cons, hanswer, hkey, writes_cons]

/-- What is found is what is read where so much has been written. -/
theorem found_eq {key : String} {writes : List (String × String)} {rows : List Row}
    (hne : ∀ row ∈ rows, placement.attributes config row ≠ []) :
    Client.documentWith config key
        (OrderedMap.listing (writes ++ placement.writes config key rows)) =
      placement.found config key (Store.stored writes) rows := by
  rw [Client.documentWith, found, Store.stored_getD, OrderedMap.entries_ofList,
    ← OrderedMap.listing_append]
  simp only [OrderedMap.listing_eq_nil_iff, List.append_eq_nil_iff, writes_eq_nil_iff hne,
    Store.stored_isNone_iff]

end Placement

/-! ### The two ways of writing -/

namespace Placement

variable {config : Config} {schema : Schema} {rows : List Row}

theorem pairs_eq {placement : Placement} {row left : Row}
    (hleft : left.entries = row.entries.filter fun entry => entry.1 ∉ placement.placing) :
    Row.pairs config.nullSentinel left =
      (placement.attributes config row).flatMap fun (name, text) => [name, text] := by
  rw [Row.pairs_eq_flat, Row.texts, hleft, attributes]

theorem insert_lowers {commands : List Command} (hinsert : Write.insert config rows = .ok commands) :
    List.Forall₂ (ofInsert.Lowers config) rows commands := by
  refine (Write.insert_storedAs hinsert).imp ?_
  rintro row command ⟨key, hkey, rfl⟩
  have hleft : (row.erase "_key").entries =
      row.entries.filter fun entry => entry.1 ∉ ofInsert.placing := by
    refine List.filter_congr fun entry _ => ?_
    rw [Bool.eq_iff_iff]
    simp [ofInsert]
  rw [pairs_eq hleft]
  exact ⟨key, hkey, rfl⟩

/-- The entry of a row that is upserted, which carries the row without what says where it goes. -/
def upsertEntry (schema : Schema) (row : Row) (id : String) : BulkEntry where
  operation := .update
  id
  index := (Row.identifier? row "_index").getD schema.name
  body := some (.document ((row.erase "_id").erase "_index") true)

theorem upsert_entries {entries : List BulkEntry}
    (hupsert : Write.upsert schema rows none = .ok entries) :
    List.Forall₂ (fun row entry => ∃ id, Row.identifier? row "_id" = some id ∧
      entry = upsertEntry schema row id) rows entries := by
  rw [Write.upsert_eq_entries] at hupsert
  have hentries := mapM_zipIdx_eq_ok hupsert
  refine hentries.imp ?_
  rintro row entry ⟨position, hentry⟩
  obtain ⟨id, hid, rfl⟩ := Write.entryAt_eq_ok_iff.mp hentry
  exact ⟨id, hid, rfl⟩

theorem upsertEntry_commands (row : Row) (id : String) :
    (upsertEntry schema row id).commands config.keySeparator config.nullSentinel =
      if (ofUpsert config schema).attributes config row = [] then [] else
        [.ofTexts "HSET" (config.documentKey ((Row.identifier? row "_index").getD schema.name) id ::
          ((ofUpsert config schema).attributes config row).flatMap fun (name, text) =>
            [name, text])] := by
  have hleft : ((row.erase "_id").erase "_index").entries =
      row.entries.filter fun entry => entry.1 ∉ (ofUpsert config schema).placing := by
    simp only [OrderedMap.erase, List.filter_filter]
    refine List.filter_congr fun entry _ => ?_
    rw [Bool.eq_iff_iff]
    simp [ofUpsert, and_comm]
  have hempty : ((row.erase "_id").erase "_index").isEmpty = true ↔
      (ofUpsert config schema).attributes config row = [] := by
    rw [OrderedMap.isEmpty, hleft, attributes, List.isEmpty_iff, List.map_eq_nil_iff]
  rw [← pairs_eq hleft]
  simp only [← hempty]
  rfl

theorem upsert_lowers {entries : List BulkEntry}
    (hupsert : Write.upsert schema rows none = .ok entries) :
    List.Forall₂ ((ofUpsert config schema).Lowers config)
      (rows.filter fun row => (ofUpsert config schema).attributes config row ≠ [])
      (Write.lower config entries) := by
  have hentries := upsert_entries hupsert
  clear hupsert
  induction hentries with
  | nil => exact .nil
  | @cons row entry rows entries hentry _ ih =>
      obtain ⟨id, hid, rfl⟩ := hentry
      have hkey : (ofUpsert config schema).key? row =
          some (config.documentKey ((Row.identifier? row "_index").getD schema.name) id) := by
        simp [ofUpsert, hid]
      rw [Write.lower, List.flatMap_cons, upsertEntry_commands]
      by_cases hnone : (ofUpsert config schema).attributes config row = []
      · rw [if_pos hnone, List.filter_cons_of_neg (by simpa using hnone)]
        exact ih
      · rw [if_neg hnone, List.filter_cons_of_pos (by simpa using hnone)]
        exact .cons ⟨_, hkey, rfl⟩ ih

end Placement

/-! ### Writing and then reading -/

/-- The states of a store in which no answers are prepared. -/
def Store.Reached (store : Store) : Prop :=
  ∃ commands, store = (Store.converse commands {}).2

/-- After a batch that rows are lowered to, a document is found with what the rows have written. -/
theorem find_after_batch (client : Client) (schema : Schema) (id : String)
    {session after : Session Store} {placement : Placement} {rows : List Row}
    {commands : List Command} {n : Nat} (hreached : session.transport.Reached)
    (hlowers : List.Forall₂ (placement.Lowers client.config) rows commands)
    (hbatch : client.run (Client.sendAll commands) session = some (.ok n, after)) :
    n = rows.length ∧ ∃ last, client.run (client.find schema id) after =
      some (.ok (placement.found client.config (client.config.documentKey schema.name id)
        (session.transport.hash? (client.config.documentKey schema.name id)) rows), last) := by
  obtain ⟨history, hhistory⟩ := hreached
  have hfollows : session.transport.Follows (Store.converse history {}).1 := by
    rw [hhistory]
    exact Store.follows_empty.converse history
  rw [Client.run_sendAll, Option.some.injEq, Prod.mk.injEq] at hbatch
  obtain ⟨hcount, rfl⟩ := hbatch
  obtain ⟨replies, hreplies, rfl⟩ := map_eq_ok_iff.mp hcount
  obtain ⟨htransport, hlength, hok⟩ := Client.pipeline_eq_ok hfollows (Prod.ext hreplies rfl)
  obtain ⟨hne, hwritten⟩ := Placement.converse_lowered hfollows hlowers hok
  refine ⟨hlength.trans hlowers.length_eq.symm, ?_⟩
  have hlater := hfollows.converse commands
  rw [← htransport] at hlater
  obtain ⟨last, hfind⟩ := client.run_find schema id hlater
  refine ⟨last, ?_⟩
  rw [hfind, hwritten, Placement.found_eq hne, hfollows.hash_eq]

/-- What has been inserted or upserted is found again: over what was at the key before, the rows
that go there have written their attributes in order, and a text is null if it is the sentinel. A
row that is upserted without attributes writes nothing and does not count. -/
theorem find_after_write (client : Client) (schema : Schema) (id : String) (rows : List Row)
    (session : Session Store) (hreached : session.transport.Reached) :
    (∀ n after, client.run (client.insert rows) session = some (.ok n, after) →
      n = rows.length ∧ ∃ last, client.run (client.find schema id) after =
        some (.ok (Placement.ofInsert.found client.config
          (client.config.documentKey schema.name id)
          (session.transport.hash? (client.config.documentKey schema.name id)) rows), last)) ∧
    (∀ n after, client.run (client.upsert schema rows none) session = some (.ok n, after) →
      let placement := Placement.ofUpsert client.config schema
      let counted := rows.filter fun row => placement.attributes client.config row ≠ []
      n = counted.length ∧ ∃ last, client.run (client.find schema id) after =
        some (.ok (placement.found client.config (client.config.documentKey schema.name id)
          (session.transport.hash? (client.config.documentKey schema.name id)) counted), last)) := by
  constructor
  · intro n after hinsert
    unfold Client.insert at hinsert
    cases hcommands : Write.insert client.config rows with
    | error error =>
        rw [hcommands] at hinsert
        cases hinsert
    | ok commands =>
        rw [hcommands] at hinsert
        exact find_after_batch client schema id hreached (Placement.insert_lowers hcommands) hinsert
  · intro n after hupsert
    unfold Client.upsert Client.sendEntries at hupsert
    cases hentries : Write.upsert schema rows none with
    | error error =>
        rw [hentries] at hupsert
        cases hupsert
    | ok entries =>
        rw [hentries] at hupsert
        exact find_after_batch client schema id hreached (Placement.upsert_lowers hentries) hupsert

/-- An index of goods. -/
def goods : Schema :=
  { name := "goods", fields := [.text "title", .numeric "price", .tag "labels"] }

/-- A store in which one of the goods has a stock. -/
def stockedGoods : Session Store where
  transport := (Store.converse [.ofTexts "hset" ["goods::1", "stock", "3"]] {}).2

/-- Rows that are inserted: two of them go to one key, and the later one takes the title away. -/
def goodsByKey : List Row :=
  [.ofList [("_key", .text "goods::1"), ("title", .text "lamp"), ("labels", .null)],
    .ofList [("_key", .text "goods::2"), ("title", .text "desk")],
    .ofList [("price", .int 20), ("_key", .text "goods::1"), ("title", .null)]]

/-- Rows that are upserted, the last of them without attributes. -/
def goodsById : List Row :=
  [.ofList [("_id", .int 1), ("stock", .int 2)],
    .ofList [("_id", .int 1), ("_index", .text "archive"), ("stock", .int 9)],
    .ofList [("_id", .int 1), ("_index", .null)]]

theorem goods_found :
    (∃ after last, Client.run {} (Client.insert {} goodsByKey) stockedGoods = some (.ok 3, after) ∧
      Client.run {} (Client.find {} goods "1") after = some (.ok (some {
        key := "goods::1"
        fields := [("stock", some "3"), ("title", none), ("labels", none), ("price", some "20")] }),
        last)) ∧
    (∃ after last,
      Client.run {} (Client.upsert {} goods goodsById none) stockedGoods = some (.ok 2, after) ∧
      Client.run {} (Client.find {} goods "1") after = some (.ok (some {
        key := "goods::1", fields := [("stock", some "2")] }), last)) := by
  have hreached : stockedGoods.transport.Reached := ⟨_, rfl⟩
  constructor
  · obtain ⟨-, last, hfind⟩ :=
      (find_after_write {} goods "1" goodsByKey stockedGoods hreached).1 3 _ rfl
    exact ⟨_, last, rfl, hfind⟩
  · obtain ⟨-, last, hfind⟩ :=
      (find_after_write {} goods "1" goodsById stockedGoods hreached).2 2 _ rfl
    exact ⟨_, last, rfl, hfind⟩

end FullText
