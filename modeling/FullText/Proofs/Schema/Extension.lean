import FullText.Proofs.Schema.Columns
import FullText.Proofs.Search.Commands

/-!
Schemas with one more field. A field that is added to a schema changes nothing for requests that
could do without it: what has compiled compiles to the same command, and of the errors only that of
a column that names the new field can go away.
-/

namespace FullText

/-! ### Results that are kept -/

/-- The second result is the first one, unless the first is an error that may have been mended. -/
structure Kept {ε α : Type} (mended : ε → Prop) (before after : Except ε α) : Prop where
  ok : ∀ a, before = .ok a → after = .ok a
  error : ∀ e, before = .error e → ¬mended e → after = .error e

namespace Kept

variable {ε α β : Type} {mended : ε → Prop}

theorem refl (x : Except ε α) : Kept mended x x :=
  ⟨fun _ hok => hok, fun _ herror _ => herror⟩

theorem of_mended {e : ε} (hmended : mended e) (after : Except ε α) :
    Kept mended (.error e) after where
  ok := nofun
  error := by
    rintro _ ⟨⟩ hnot
    exact absurd hmended hnot

theorem bind {before after : Except ε α} {f g : α → Except ε β} (hkept : Kept mended before after)
    (hnext : ∀ a, Kept mended (f a) (g a)) : Kept mended (before >>= f) (after >>= g) := by
  cases before with
  | ok a =>
      rw [hkept.ok a rfl]
      exact hnext a
  | error e =>
      by_cases hmended : mended e
      · exact of_mended hmended _
      · rw [hkept.error e rfl hmended]
        exact refl (.error e)

theorem map {before after : Except ε α} (hkept : Kept mended before after) (f : α → β) :
    Kept mended (before.map f) (after.map f) := by
  have hbind : ∀ x : Except ε α, x.map f = x >>= fun a => .ok (f a) := by
    intro x
    cases x <;> rfl
  rw [hbind, hbind]
  exact hkept.bind fun a => refl (.ok (f a))

theorem mapM {f g : α → Except ε β} (hitems : ∀ a, Kept mended (f a) (g a)) (as : List α) :
    Kept mended (as.mapM f) (as.mapM g) := by
  induction as with
  | nil => exact refl _
  | cons a as ih =>
      rw [List.mapM_cons, List.mapM_cons]
      exact (hitems a).bind fun b => ih.bind fun more => refl _

end Kept

namespace Schema

/-- The error that a schema has for a column in want of a field. -/
def Wants (schema : Schema) (field : Field) (error : Error) : Prop :=
  ∃ column, schema.bareColumn column = field.name ∧ error = .unknownField schema.name column

/-- The schema with a field at the end. -/
def extended (schema : Schema) (field : Field) : Schema :=
  { schema with fields := schema.fields ++ [field] }

theorem eq_extended_of_addField {schema after : Schema} {field : Field}
    (hadd : schema.addField field = .ok after) : after = schema.extended field :=
  (addField_eq_ok_iff.mp hadd).2.2

variable (schema : Schema) (field : Field)

theorem resolve?_extended (column : String) : (schema.extended field).resolve? column =
    (schema.resolve? column).or
      (if field.name = schema.bareColumn column then some field else none) := by
  change (schema.fields ++ [field]).find? _ = _
  rw [List.find?_append, List.find?_singleton]
  simp only [beq_iff_eq]
  rfl

/-- A column names the field that it has named before. -/
theorem resolve_kept (column : String) :
    Kept (schema.Wants field) (schema.resolve column) ((schema.extended field).resolve column) := by
  unfold resolve
  rw [resolve?_extended]
  cases schema.resolve? column with
  | some found => exact .refl (.ok found)
  | none =>
      dsimp only [Option.none_or]
      split
      case h_1 hnew =>
        refine .of_mended ⟨column, ?_, rfl⟩ _
        split at hnew
        case isTrue hname => exact hname.symm
        case isFalse => cases hnew
      case h_2 => exact .refl _

theorem tagValuesCommand_kept (column : String) :
    Kept (schema.Wants field) (schema.tagValuesCommand column)
      ((schema.extended field).tagValuesCommand column) :=
  (schema.resolve_kept field column).bind fun _ => .refl _

end Schema

/-! ### Queries -/

namespace Query

variable (schema : Schema) (field : Field) (config : Config)

theorem ofTest_kept (column : String) (asked : Test) :
    Kept (schema.Wants field) (ofTest schema config column asked)
      (ofTest (schema.extended field) config column asked) :=
  (schema.resolve_kept field column).bind fun _ => .refl _

mutual

theorem ofPredicate?_kept : (predicate : Predicate) →
    Kept (schema.Wants field) (ofPredicate? schema config predicate)
      (ofPredicate? (schema.extended field) config predicate)
  | .test column asked => by
      rw [ofPredicate?, ofPredicate?]
      exact (ofTest_kept schema field config column asked).map some
  | .raw query => by
      rw [ofPredicate?, ofPredicate?]
      exact .refl _
  | .nested clauses => by
      rw [ofPredicate?, ofPredicate?]
      exact (partsOf_kept clauses).bind fun _ => .refl _

theorem partsOf_kept : (clauses : List (Joined Predicate)) →
    Kept (schema.Wants field) (partsOf schema config clauses)
      (partsOf (schema.extended field) config clauses)
  | [] => by
      rw [partsOf, partsOf]
      exact .refl _
  | clause :: clauses => by
      rw [partsOf, partsOf]
      refine (partOf?_kept clause).bind fun part => ?_
      exact (partsOf_kept clauses).bind fun _ => .refl _

theorem partOf?_kept : (clause : Joined Predicate) →
    Kept (schema.Wants field) (partOf? schema config clause)
      (partOf? (schema.extended field) config clause)
  | { junction, predicate } => by
      rw [partOf?, partOf?]
      exact (ofPredicate?_kept predicate).bind fun _ => .refl _

end

theorem ofClauses_kept (clauses : List Clause) :
    Kept (schema.Wants field) (ofClauses schema config clauses)
      (ofClauses (schema.extended field) config clauses) :=
  (partsOf_kept schema field config clauses).bind fun _ => .refl _

end Query

/-! ### Commands -/

namespace Request

variable (request : Request) (schema : Schema) (field : Field) (config : Config)

theorem sortTokens_kept (sorts : List SortKey) :
    Kept (schema.Wants field) (sortTokens schema sorts)
      (sortTokens (schema.extended field) sorts) := by
  match sorts with
  | [] => exact .refl _
  | [sort] => exact (schema.resolve_kept field sort.column).bind fun _ => .refl _
  | _ :: _ :: _ => exact .refl _

theorem selectCommand_kept :
    Kept (schema.Wants field) (request.selectCommand schema config)
      (request.selectCommand (schema.extended field) config) := by
  refine (Query.ofClauses_kept schema field config request.clauses).bind fun query => ?_
  exact (sortTokens_kept schema field request.sorts).bind fun _ => .refl _

theorem countCommand_kept :
    Kept (schema.Wants field) (request.countCommand schema config)
      (request.countCommand (schema.extended field) config) :=
  (Query.ofClauses_kept schema field config request.clauses).bind fun _ => .refl _

theorem deletionCommand_kept :
    Kept (schema.Wants field) (request.deletionCommand schema config)
      (request.deletionCommand (schema.extended field) config) := by
  rw [deletionCommand_eq_selectCommand, deletionCommand_eq_selectCommand]
  exact selectCommand_kept _ schema field config

end Request

/-- A schema to which a field is added has the same commands for every request and every column that
it had one for, and the same errors but for columns that name the new field. -/
theorem commands_kept {schema extended : Schema} {field : Field}
    (hadd : schema.addField field = .ok extended) (config : Config) (request : Request)
    (column : String) :
    Kept (schema.Wants field) (request.selectCommand schema config)
        (request.selectCommand extended config) ∧
      Kept (schema.Wants field) (request.countCommand schema config)
        (request.countCommand extended config) ∧
      Kept (schema.Wants field) (request.deletionCommand schema config)
        (request.deletionCommand extended config) ∧
      Kept (schema.Wants field) (schema.tagValuesCommand column)
        (extended.tagValuesCommand column) := by
  obtain rfl := Schema.eq_extended_of_addField hadd
  exact ⟨request.selectCommand_kept schema field config,
    request.countCommand_kept schema field config, request.deletionCommand_kept schema field config,
    schema.tagValuesCommand_kept field column⟩

/-- An index of paintings. -/
def paintings : Schema :=
  { name := "paintings", fields := [.text "title", .tag "school"] }

/-- The paintings of a title, and those of a school that have one, by their titles. -/
def titledPaintings : Request where
  index := "paintings"
  clauses := [
    { junction := .and, predicate := .test "title" (.compare .eq (.text "Guernica")) },
    { junction := .or, predicate := .nested [
      { junction := .and, predicate := .test "paintings.school" (.compare .eq (.text "Delft")) },
      { junction := .and, predicate := .test "title" .notNull }] }]
  sorts := [{ column := "paintings.title", direction := .asc }]

/-- The paintings are looked for in the same way when their places are known. -/
theorem titledPaintings_kept :
    ∃ extended command, paintings.addField (.geo "place") = .ok extended ∧
      titledPaintings.selectCommand paintings {} = .ok command ∧
      titledPaintings.selectCommand extended {} = .ok command := by
  have hadd : paintings.addField (.geo "place") = .ok (paintings.extended (.geo "place")) := rfl
  have hselect : ∃ command, titledPaintings.selectCommand paintings {} = .ok command := ⟨_, rfl⟩
  obtain ⟨command, hselect⟩ := hselect
  exact ⟨_, command, hadd, hselect, (commands_kept hadd {} titledPaintings "title").1.ok _ hselect⟩

end FullText
