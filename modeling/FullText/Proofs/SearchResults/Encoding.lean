import FullText.Proofs.SearchResults

/-!
Search results as replies. There is more than one way to tell the same results: null is told as the
sentinel or as nothing, and a document without attributes with an empty array or with none, and a
reply may mix them. However results are told they are read back, unless the text of an attribute is
the sentinel itself.
-/

namespace FullText

/-! ### Telling results -/

/-- A value is told as its text; null is told as the sentinel, or as nothing. -/
inductive TellsValue (nullSentinel : String) : Option String → Reply → Prop where
  | text (s : String) : TellsValue nullSentinel (some s) (.bulk s)
  | sentinel : TellsValue nullSentinel none (.bulk nullSentinel)
  | nothing : TellsValue nullSentinel none .nil

/-- An attribute is told as its name and its value. -/
def TellsField (nullSentinel : String) (field : String × Option String) (pair : Reply × Reply) :
    Prop :=
  pair.1 = .bulk field.1 ∧ TellsValue nullSentinel field.2 pair.2

/-- A document is told as its key and its attributes. Where it has none the key is enough. -/
inductive TellsDocument (nullSentinel : String) : Document → Hit → Prop where
  | full {key : String} {fields : List (String × Option String)} {pairs : List (Reply × Reply)}
      (hfields : List.Forall₂ (TellsField nullSentinel) fields pairs) :
      TellsDocument nullSentinel { key, fields } { key := .bulk key, contents := some pairs }
  | bare (key : String) :
      TellsDocument nullSentinel { key, fields := [] } { key := .bulk key, contents := none }

/-- Results are told as their total and then one hit for each document. -/
inductive TellsResults (nullSentinel : String) : SearchResults → Reply → Prop where
  | hits {total : Nat} {documents : List Document} {hits : List Hit}
      (hhits : List.Forall₂ (TellsDocument nullSentinel) documents hits) :
      TellsResults nullSentinel { total, documents }
        (.array (.int total :: hits.flatMap Hit.items))

/-! ### What is read back -/

/-- An attribute whose text is the sentinel is taken for null. -/
def Document.seenField (nullSentinel : String) (field : String × Option String) :
    String × Option String :=
  (field.1, field.2.filter fun text => text != nullSentinel)

/-- A document in which every text that is the sentinel is taken for null. -/
def Document.seen (nullSentinel : String) (document : Document) : Document :=
  { document with fields := document.fields.map (seenField nullSentinel) }

/-- No text of an attribute is the sentinel. -/
def Document.Unmistakable (nullSentinel : String) (document : Document) : Prop :=
  ∀ field ∈ document.fields, field.2 ≠ some nullSentinel

instance (nullSentinel : String) : DecidablePred (Document.Unmistakable nullSentinel) :=
  fun document =>
    inferInstanceAs (Decidable (∀ field ∈ document.fields, field.2 ≠ some nullSentinel))

section Reading

variable {nullSentinel : String}

theorem TellsValue.fieldValue {value : Option String} {reply : Reply}
    (htells : TellsValue nullSentinel value reply) :
    Document.fieldValue nullSentinel reply = value.filter fun text => text != nullSentinel := by
  cases htells with
  | text s => rfl
  | sentinel => simp [Document.fieldValue, Reply.text?]
  | nothing => rfl

theorem TellsField.gives {field : String × Option String} {pair : Reply × Reply}
    (htells : TellsField nullSentinel field pair) :
    Hit.Gives nullSentinel pair (Document.seenField nullSentinel field) := by
  obtain ⟨hname, hvalue⟩ := htells
  refine ⟨?_, hvalue.fieldValue⟩
  rw [hname]
  exact .bulk field.1

theorem TellsDocument.describes {document : Document} {hit : Hit}
    (htells : TellsDocument nullSentinel document hit) :
    hit.Describes nullSentinel (document.seen nullSentinel) := by
  cases htells with
  | full hfields =>
      refine ⟨.bulk _, ?_⟩
      exact List.forall₂_map_right_iff.mpr (hfields.imp fun _ _ => TellsField.gives).flip
  | bare key => exact ⟨.bulk key, .nil⟩

/-- Whatever tells results is read, and only texts that are the sentinel are not read as they
were. -/
theorem TellsResults.ofReply {results : SearchResults} {reply : Reply}
    (htells : TellsResults nullSentinel results reply) :
    SearchResults.ofReply reply nullSentinel =
      .ok { results with documents := results.documents.map (Document.seen nullSentinel) } := by
  cases htells with
  | @hits total documents hits hhits =>
      refine SearchResults.ofReply_eq_ok_iff.mpr ⟨_, hits, rfl, .int total, ?_⟩
      exact List.forall₂_map_right_iff.mpr (hhits.imp fun _ _ => TellsDocument.describes).flip

private theorem map_eq_self_iff {α : Type} {f : α → α} {items : List α} :
    items.map f = items ↔ ∀ item ∈ items, f item = item := by
  have hmap := List.map_inj_left (l := items) (f := f) (g := id)
  rwa [List.map_id] at hmap

theorem Document.seenField_eq_self_iff {field : String × Option String} :
    seenField nullSentinel field = field ↔ field.2 ≠ some nullSentinel := by
  obtain ⟨name, value⟩ := field
  cases value with
  | none => simp [seenField]
  | some text =>
      by_cases htext : text = nullSentinel
      · simp [seenField, htext]
      · simp [seenField, htext]

theorem Document.seen_eq_self_iff {document : Document} :
    document.seen nullSentinel = document ↔ document.Unmistakable nullSentinel := by
  obtain ⟨key, fields⟩ := document
  simp only [seen, Unmistakable, Document.mk.injEq, true_and, map_eq_self_iff,
    seenField_eq_self_iff]

end Reading

/-- However results are told, they are read back exactly if no text of an attribute is the
sentinel. -/
theorem told_results_read_iff {nullSentinel : String} {results : SearchResults} {reply : Reply}
    (htells : TellsResults nullSentinel results reply) :
    SearchResults.ofReply reply nullSentinel = .ok results ↔
      ∀ document ∈ results.documents, document.Unmistakable nullSentinel := by
  rw [htells.ofReply]
  obtain ⟨total, documents⟩ := results
  simp only [Except.ok.injEq, SearchResults.mk.injEq, true_and, map_eq_self_iff,
    Document.seen_eq_self_iff]

/-- Three books, one of which has attributes, with two nulls among them. -/
def shelf : SearchResults where
  total := 7
  documents := [
    { key := "books::1", fields := [("title", some "Emma"), ("isbn", none), ("note", none)] },
    { key := "books::2", fields := [] },
    { key := "books::3", fields := [] }]

/-- The shelf, with its nulls and its documents without attributes told in either way. -/
def shelfReply : Reply :=
  .array [.int 7,
    .bulk "books::1",
    .array [.bulk "title", .bulk "Emma", .bulk "isbn", .bulk "_null_", .bulk "note", .nil],
    .bulk "books::2",
    .bulk "books::3", .array []]

theorem shelf_read : TellsResults "_null_" shelf shelfReply ∧
    SearchResults.ofReply shelfReply "_null_" = .ok shelf := by
  have hfields : List.Forall₂ (TellsField "_null_")
      [("title", some "Emma"), ("isbn", none), ("note", none)]
      [(.bulk "title", .bulk "Emma"), (.bulk "isbn", .bulk "_null_"), (.bulk "note", .nil)] :=
    .cons ⟨rfl, .text _⟩ (.cons ⟨rfl, .sentinel⟩ (.cons ⟨rfl, .nothing⟩ .nil))
  have htells : TellsResults "_null_" shelf shelfReply :=
    .hits (.cons (.full hfields) (.cons (.bare _) (.cons (.full .nil) .nil)))
  exact ⟨htells, (told_results_read_iff htells).mpr (by decide)⟩

end FullText
