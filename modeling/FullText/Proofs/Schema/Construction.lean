import FullText.Proofs.Field.Soundness
import FullText.Proofs.Schema.Columns

/-!
Schemas under construction. Fields are offered one after another to a schema that has none at first.
A field that is not sound is refused, and so is one whose name is taken; a refused field leaves the
schema as it is, and any other one comes last in it. Hence the names of the fields stay distinct and
the fields sound however many offers are refused on the way, and a name is taken as soon as a sound
field of that name has been offered.
-/

namespace FullText.Schema

/-- The fields have names of their own, and every field is sound. -/
structure WellFormed (schema : Schema) : Prop where
  names_nodup : (schema.fields.map Field.name).Nodup
  fields_sound : ∀ field ∈ schema.fields, field.Sound

/-! ### A single offer -/

/-- The error that a field is refused with, if it is, and the schema from then on. -/
def offer (schema : Schema) (field : Field) : Option Error × Schema :=
  match schema.addField field with
  | .ok after => (none, after)
  | .error error => (some error, schema)

/-- What can come of offering a field. That the field is not sound is told before anything about its
name. -/
inductive Offer (schema : Schema) (field : Field) : Option Error → Schema → Prop where
  | faulty {error : Error} (hfaulty : field.Faulty error) : Offer schema field (some error) schema
  | nameTaken (hsound : field.Sound) (htaken : field.name ∈ schema.fields.map Field.name) :
      Offer schema field (some (.duplicateFieldName field.name)) schema
  | accepted (hsound : field.Sound) (hfree : field.name ∉ schema.fields.map Field.name) :
      Offer schema field none { schema with fields := schema.fields ++ [field] }

variable {schema next after : Schema} {field : Field} {answer : Option Error}

theorem addField_eq_error_iff {error : Error} :
    schema.addField field = .error error ↔ field.Faulty error ∨
      field.Sound ∧ field.name ∈ schema.fields.map Field.name ∧
        error = .duplicateFieldName field.name := by
  unfold addField
  rw [bind_eq_error_iff, Field.check_eq_error_iff]
  refine or_congr_right ⟨?_, ?_⟩
  · rintro ⟨_, hcheck, hrefused⟩
    split at hrefused
    case isTrue hsome =>
      cases hrefused
      refine ⟨Field.check_eq_ok_iff.mp hcheck, ?_, rfl⟩
      exact not_not.mp (mt field?_eq_none_iff.mpr (Option.isSome_iff_ne_none.mp hsome))
    case isFalse => cases hrefused
  · rintro ⟨hsound, htaken, rfl⟩
    have hsome : (schema.field? field.name).isSome :=
      Option.isSome_iff_ne_none.mpr fun hnone => field?_eq_none_iff.mp hnone htaken
    refine ⟨(), Field.check_eq_ok_iff.mpr hsound, ?_⟩
    rw [if_pos hsome]
    rfl

theorem exists_offer (schema : Schema) (field : Field) :
    ∃ answer next, schema.offer field = (answer, next) ∧ Offer schema field answer next := by
  unfold offer
  split
  case h_1 after hadded =>
    obtain ⟨hcheck, hfree, rfl⟩ := addField_eq_ok_iff.mp hadded
    have hsound := Field.check_eq_ok_iff.mp hcheck
    exact ⟨none, _, rfl, .accepted hsound (field?_eq_none_iff.mp hfree)⟩
  case h_2 error herror =>
    refine ⟨some error, schema, rfl, ?_⟩
    rcases addField_eq_error_iff.mp herror with hfaulty | ⟨hsound, htaken, rfl⟩
    · exact .faulty hfaulty
    · exact .nameTaken hsound htaken

theorem Offer.wellFormed (hoffer : Offer schema field answer next) (hwell : schema.WellFormed) :
    next.WellFormed := by
  cases hoffer with
  | faulty | nameTaken => exact hwell
  | accepted hsound hfree =>
      have hadded := addField_eq_ok_iff.mpr
        ⟨Field.check_eq_ok_iff.mpr hsound, field?_eq_none_iff.mpr hfree, rfl⟩
      refine ⟨addField_nodup hadded hwell.names_nodup, ?_⟩
      rw [List.forall_mem_append, List.forall_mem_singleton]
      exact ⟨hwell.fields_sound, hsound⟩

/-- An offer takes the name of a sound field, if it was free, and no other name. -/
theorem Offer.mem_names_iff (hoffer : Offer schema field answer next) {name : String} :
    name ∈ next.fields.map Field.name ↔
      name ∈ schema.fields.map Field.name ∨ field.Sound ∧ field.name = name := by
  cases hoffer with
  | faulty hfaulty => simp [hfaulty.not_sound]
  | nameTaken hsound htaken =>
      constructor
      · exact .inl
      · rintro (hname | ⟨-, rfl⟩)
        · exact hname
        · exact htaken
  | accepted hsound hfree => simp [hsound, eq_comm]

/-! ### One offer after another -/

/-- The answers to fields that are offered one after another, and the schema in the end. -/
def offerAll (schema : Schema) : List Field → List (Option Error) × Schema
  | [] => ([], schema)
  | field :: fields =>
    let (answer, next) := schema.offer field
    let (answers, after) := next.offerAll fields
    (answer :: answers, after)

/-- Offers that follow one another, each made to the schema that the one before has left. -/
inductive Offers : Schema → List Field → List (Option Error) → Schema → Prop where
  | nil (schema : Schema) : Offers schema [] [] schema
  | cons {schema next after : Schema} {field : Field} {fields : List Field}
      {answer : Option Error} {answers : List (Option Error)}
      (hfirst : Offer schema field answer next) (hrest : Offers next fields answers after) :
      Offers schema (field :: fields) (answer :: answers) after

/-- The fields that were not refused. -/
def accepted (offered : List Field) (answers : List (Option Error)) : List Field :=
  ((offered.zip answers).filter fun (_, answer) => answer.isNone).map (·.1)

variable {offered : List Field} {answers : List (Option Error)}

theorem exists_offers (schema : Schema) (offered : List Field) :
    ∃ answers after, schema.offerAll offered = (answers, after) ∧
      Offers schema offered answers after := by
  induction offered generalizing schema with
  | nil => exact ⟨[], schema, rfl, .nil schema⟩
  | cons field fields ih =>
      obtain ⟨answer, next, hoffer, hfirst⟩ := exists_offer schema field
      obtain ⟨answers, after, hoffers, hrest⟩ := ih next
      refine ⟨answer :: answers, after, ?_, .cons hfirst hrest⟩
      rw [offerAll, hoffer]
      dsimp only
      rw [hoffers]

namespace Offers

theorem eq_append (hoffers : Offers schema offered answers after) :
    after = { schema with fields := schema.fields ++ accepted offered answers } := by
  induction hoffers with
  | nil schema => simp [accepted]
  | cons hfirst hrest ih =>
      subst ih
      cases hfirst with
      | faulty | nameTaken => simp [accepted]
      | accepted => simp [accepted]

theorem wellFormed (hoffers : Offers schema offered answers after) (hwell : schema.WellFormed) :
    after.WellFormed := by
  induction hoffers with
  | nil => exact hwell
  | cons hfirst _ ih => exact ih (hfirst.wellFormed hwell)

theorem mem_names_iff (hoffers : Offers schema offered answers after) {name : String} :
    name ∈ after.fields.map Field.name ↔ name ∈ schema.fields.map Field.name ∨
      ∃ field ∈ offered, field.Sound ∧ field.name = name := by
  induction hoffers with
  | nil => simp
  | cons hfirst _ ih => rw [ih, hfirst.mem_names_iff, List.exists_mem_cons_iff, or_assoc]

theorem accepted_eq_nil_iff (hoffers : Offers schema offered answers after) :
    accepted offered answers = [] ↔ none ∉ answers := by
  induction hoffers with
  | nil => simp [accepted]
  | @cons _ _ _ _ _ answer _ _ _ ih =>
      cases answer with
      | none => simp [accepted]
      | some error => simpa [accepted] using ih

end Offers

theorem creationTokens_eq_error_iff {error : Error} :
    schema.creationTokens = .error error ↔
      schema.fields = [] ∧ error = .emptySchema schema.name := by
  unfold creationTokens
  cases schema.fields with
  | nil => simp [eq_comm]
  | cons field fields => simp

/-- Of all the fields that are offered to a new schema, one after another, exactly those that are
sound and have a free name are accepted. They are the fields of the schema in the order of their
acceptance, all of them sound and with names of their own; the other offers change nothing. An index
cannot be created exactly if nothing was accepted. -/
theorem fields_as_accepted (name : String) (offered : List Field) :
    ∃ answers built, ({ name } : Schema).offerAll offered = (answers, built) ∧
      Offers { name } offered answers built ∧
      built = { name, fields := accepted offered answers } ∧
      built.WellFormed ∧
      (∀ taken, taken ∈ built.fields.map Field.name ↔
        ∃ field ∈ offered, field.Sound ∧ field.name = taken) ∧
      ∀ error, built.creationTokens = .error error ↔
        none ∉ answers ∧ error = .emptySchema name := by
  obtain ⟨answers, built, hrun, hoffers⟩ := exists_offers { name } offered
  have hbuilt := hoffers.eq_append
  refine ⟨answers, built, hrun, hoffers, hbuilt, ?_, ?_, ?_⟩
  · exact hoffers.wellFormed ⟨List.nodup_nil, nofun⟩
  · intro taken
    rw [hoffers.mem_names_iff]
    simp
  · intro error
    rw [creationTokens_eq_error_iff, ← hoffers.accepted_eq_nil_iff]
    subst hbuilt
    exact Iff.rfl

example : (({ name := "books" } : Schema).offerAll
    [.text "title", .tag "title" "", .numeric "title", .geo "", .tag "shelf"]).1 =
      [none, some (.invalidValue "title" (.separatorLength "")), some (.duplicateFieldName "title"),
        some .emptyFieldName, none] := by
  rfl

end FullText.Schema
