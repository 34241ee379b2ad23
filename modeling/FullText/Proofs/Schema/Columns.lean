import FullText.Proofs.Except
import FullText.Proofs.Text.Lead
import FullText.Schema
import Mathlib.Data.List.Nodup

/-!
The columns of an index. A column names a field by the name of the field, or with the name of the
index and a point in front of it, and a text that begins so is always read in the second way. Hence
every field is reached with the name of the index in front, and by its own name exactly when the
name does not begin like that itself.
-/

namespace FullText.Schema

/-- A column with the name of the index in front. -/
def qualified (schema : Schema) (column : String) : String :=
  schema.name ++ "." ++ column

def IsQualified (schema : Schema) (column : String) : Prop :=
  ∃ bare, column = schema.qualified bare

variable {schema after : Schema} {field : Field}

/-! ### Columns -/

theorem bareColumn_eq (schema : Schema) (column : String) :
    schema.bareColumn column = (Text.dropLead? (schema.name ++ ".") column).getD column := by
  rw [bareColumn, Text.dropLead?_bind]

@[simp]
theorem bareColumn_qualified (schema : Schema) (column : String) :
    schema.bareColumn (schema.qualified column) = column := by
  rw [bareColumn_eq, qualified, Text.dropLead?_append]
  rfl

theorem bareColumn_eq_self_iff {column : String} :
    schema.bareColumn column = column ↔ ¬ schema.IsQualified column := by
  constructor
  · rintro hself ⟨bare, rfl⟩
    rw [bareColumn_qualified] at hself
    have hlength := congrArg String.length hself
    simp [qualified] at hlength
  · intro hbare
    have hnone : Text.dropLead? (schema.name ++ ".") column = none :=
      Text.dropLead?_eq_none_iff.mpr (not_exists.mp hbare)
    rw [bareColumn_eq, hnone]
    rfl

theorem resolve_eq_ok_iff {column : String} :
    schema.resolve column = .ok field ↔ schema.resolve? column = some field := by
  unfold resolve
  cases schema.resolve? column with
  | none => simp
  | some found => simp

theorem name_of_field? {name : String} (hfield : schema.field? name = some field) :
    field.name = name := by
  rw [field?, List.find?_eq_some_iff_append] at hfield
  exact eq_of_beq hfield.1

/-! ### Fields with distinct names -/

theorem addField_eq_ok_iff :
    schema.addField field = .ok after ↔
      field.check = .ok () ∧ schema.field? field.name = none ∧
        after = { schema with fields := schema.fields ++ [field] } := by
  unfold addField
  rw [bind_eq_ok_iff]
  constructor
  · rintro ⟨_, hcheck, hadded⟩
    split at hadded
    case isTrue => cases hadded
    case isFalse hnew =>
      exact ⟨hcheck, Option.not_isSome_iff_eq_none.mp hnew, (Except.ok.inj hadded).symm⟩
  · rintro ⟨hcheck, hnew, rfl⟩
    refine ⟨(), hcheck, ?_⟩
    rw [hnew]
    rfl

theorem field?_eq_none_iff {name : String} :
    schema.field? name = none ↔ name ∉ schema.fields.map Field.name := by
  simp [field?]

theorem field?_of_mem (hnodup : (schema.fields.map Field.name).Nodup)
    (hfield : field ∈ schema.fields) : schema.field? field.name = some field := by
  obtain ⟨found, hfound⟩ : ∃ found, schema.field? field.name = some found := by
    rw [← Option.ne_none_iff_exists']
    exact fun hnone => field?_eq_none_iff.mp hnone (List.mem_map_of_mem hfield)
  have hsame : found = field := List.inj_on_of_nodup_map hnodup
    (List.mem_of_find?_eq_some hfound) hfield (name_of_field? hfound)
  rw [hfound, hsame]

/-- The schema with more fields, added one after another. -/
def addFields (schema : Schema) (fields : List Field) : Except Error Schema :=
  fields.foldlM addField schema

theorem addField_nodup (hadded : schema.addField field = .ok after)
    (hnodup : (schema.fields.map Field.name).Nodup) : (after.fields.map Field.name).Nodup := by
  obtain ⟨-, hnew, rfl⟩ := addField_eq_ok_iff.mp hadded
  rw [List.map_append]
  refine hnodup.append (List.nodup_singleton _) ?_
  rw [List.map_singleton, List.disjoint_singleton]
  exact field?_eq_none_iff.mp hnew

theorem addFields_nodup {fields : List Field} (hadded : schema.addFields fields = .ok after)
    (hnodup : (schema.fields.map Field.name).Nodup) : (after.fields.map Field.name).Nodup := by
  induction fields generalizing schema with
  | nil =>
      obtain rfl := Except.ok.inj hadded
      exact hnodup
  | cons field fields ih =>
      rw [addFields, List.foldlM_cons] at hadded
      obtain ⟨next, hnext, hadded⟩ := bind_eq_ok_iff.mp hadded
      exact ih hadded (addField_nodup hnext hnodup)

/-- Every field of a schema that was built field by field is reached with the name of the index in
front of its own, and by its own name exactly when that does not begin with the name of the index
and a point. -/
theorem fields_reached_by_name {empty : Schema} {fields : List Field} (hempty : empty.fields = [])
    (hadded : empty.addFields fields = .ok schema) (hfield : field ∈ schema.fields) :
    schema.resolve? (schema.qualified field.name) = some field ∧
      (schema.resolve? field.name = some field ↔ ¬ schema.IsQualified field.name) := by
  have hnodup : (schema.fields.map Field.name).Nodup := by
    apply addFields_nodup hadded
    rw [hempty]
    exact List.nodup_nil
  have hfound := field?_of_mem hnodup hfield
  constructor
  · rw [resolve?, bareColumn_qualified]
    exact hfound
  · rw [← bareColumn_eq_self_iff]
    constructor
    · exact fun hfield => (name_of_field? hfield).symm
    · intro hself
      rw [resolve?, hself]
      exact hfound

/-- Prices, and a field that is named like them with the name of the index in front. -/
def products : List Field :=
  [.tag "price", .numeric "products.price"]

/-- The prices are reached in both ways, and the other field with the name of the index in front. -/
theorem products_reached :
    ∃ schema, ({ name := "products" } : Schema).addFields products = .ok schema ∧
      schema.resolve? "price" = some (.tag "price") ∧
      schema.resolve? "products.price" = some (.tag "price") ∧
      schema.resolve? "products.products.price" = some (.numeric "products.price") := by
  have hadded : ∃ schema, ({ name := "products" } : Schema).addFields products = .ok schema ∧
      schema.name = "products" ∧ schema.fields = products := ⟨_, rfl, rfl, rfl⟩
  obtain ⟨schema, hadded, hname, hfields⟩ := hadded
  have hqualified (column : String) : schema.qualified column = "products." ++ column := by
    rw [qualified, hname]
    rfl
  have hmem : .tag "price" ∈ schema.fields ∧ .numeric "products.price" ∈ schema.fields := by
    rw [hfields]
    exact ⟨.head _, .tail _ (.head _)⟩
  have hprice := fields_reached_by_name rfl hadded hmem.1
  have hother := fields_reached_by_name rfl hadded hmem.2
  rw [hqualified] at hprice hother
  refine ⟨schema, hadded, hprice.2.mpr ?_, hprice.1, hother.1⟩
  apply bareColumn_eq_self_iff.mp
  rw [bareColumn_eq, hname]
  rfl

/-- A field whose name begins with the name of the index is not reached by its own name: what is
found is the field that is called like the rest of it. -/
theorem products_price_misread :
    ∃ schema, ({ name := "products" } : Schema).addFields products = .ok schema ∧
      .numeric "products.price" ∈ schema.fields ∧
      schema.resolve? "products.price" = some (.tag "price") ∧
      schema.resolve? "products.price" ≠ some (.numeric "products.price") := by
  refine ⟨_, rfl, .tail _ (.head _), rfl, ?_⟩
  intro hsame
  have hprice : some "price" = some "products.price" := congrArg (Option.map Field.name) hsame
  exact absurd hprice (by decide)

end FullText.Schema
