import FullText.Field
import FullText.Proofs.Except

/-!
Sound fields. A field can be part of an index when it has a name and its attributes make sense: the
weight of a text is a positive number, the separator of tags is a single character, and vectors have
a dimension. The check of a field tells that it has no name before it looks at anything else.
-/

namespace FullText

/-! ### Attributes -/

namespace FieldType

/-- The attributes make sense. -/
def Sound : FieldType → Prop
  | .text weight .. => weight.isFinite = true ∧ 0 < weight
  | .tag separator .. => ∃ c, separator.toList = [c]
  | .vector (some params) => 0 < params.dim
  | .numeric .. | .geo .. | .geoShape .. | .vector none => True

/-- The attribute that makes no sense, and how it is told. -/
inductive Faulty : FieldType → ValueIssue → Prop where
  | weight {weight : Float} {noStem sortable noIndex : Bool}
      (hweight : ¬(weight.isFinite = true ∧ 0 < weight)) :
      Faulty (.text weight noStem sortable noIndex) (.weightNotPositive weight)
  | separator {separator : String} {sortable noIndex : Bool}
      (hseparator : ¬∃ c, separator.toList = [c]) :
      Faulty (.tag separator sortable noIndex) (.separatorLength separator)
  | dimension {params : VectorParams} (hdim : params.dim = 0) :
      Faulty (.vector (some params)) .dimensionZero

variable {type : FieldType} {issue : ValueIssue}

theorem issue?_eq_none_iff : type.issue? = none ↔ type.Sound := by
  cases type with
  | text weight noStem sortable noIndex => simp [issue?, Sound]
  | tag separator sortable noIndex => simp [issue?, Sound, List.length_eq_one_iff]
  | vector params =>
      cases params with
      | none => simp [issue?, Sound]
      | some params => simp [issue?, Sound, UInt32.pos_iff_ne_zero]
  | numeric | geo | geoShape => simp [issue?, Sound]

theorem issue?_eq_some_iff : type.issue? = some issue ↔ type.Faulty issue := by
  constructor
  · intro hissue
    have hunsound : ¬type.Sound := by
      rw [← issue?_eq_none_iff, hissue]
      exact nofun
    cases type with
    | text weight noStem sortable noIndex =>
        rw [issue?] at hissue
        split at hissue <;> cases hissue
        exact .weight hunsound
    | tag separator sortable noIndex =>
        rw [issue?] at hissue
        split at hissue <;> cases hissue
        exact .separator hunsound
    | vector params =>
        rcases params with _ | params
        · cases hissue
        · rw [issue?] at hissue
          split at hissue
          case isTrue hdim => cases hissue; exact .dimension hdim
          case isFalse => cases hissue
    | numeric | geo | geoShape => cases hissue
  · intro hfaulty
    cases hfaulty with
    | weight hweight => simpa [issue?] using hweight
    | separator hseparator => simpa [issue?, List.length_eq_one_iff] using hseparator
    | dimension hdim => exact if_pos hdim

theorem sound_iff_not_faulty : type.Sound ↔ ∀ issue, ¬type.Faulty issue := by
  rw [← issue?_eq_none_iff, Option.eq_none_iff_forall_ne_some]
  exact forall_congr' fun issue => not_congr issue?_eq_some_iff

end FieldType

/-! ### Fields -/

namespace Field

/-- The field has a name and attributes that make sense. -/
structure Sound (field : Field) : Prop where
  name_ne_empty : field.name ≠ ""
  type_sound : field.type.Sound

/-- What is wrong with a field, and how it is told. -/
inductive Faulty (field : Field) : Error → Prop where
  | name (hname : field.name = "") : Faulty field .emptyFieldName
  | value {issue : ValueIssue} (hname : field.name ≠ "") (hissue : field.type.Faulty issue) :
      Faulty field (.invalidValue field.name issue)

variable {field : Field}

theorem check_eq_ok_iff : field.check = .ok () ↔ field.Sound := by
  have hsound : field.Sound ↔ field.name ≠ "" ∧ field.type.issue? = none := by
    rw [FieldType.issue?_eq_none_iff]
    exact ⟨fun ⟨hname, htype⟩ => ⟨hname, htype⟩, fun ⟨hname, htype⟩ => ⟨hname, htype⟩⟩
  rw [hsound, check]
  by_cases hname : field.name = ""
  · simp [hname]
  · cases field.type.issue? <;> simp [hname]

theorem check_eq_error_iff {error : Error} : field.check = .error error ↔ field.Faulty error := by
  rw [check]
  constructor
  · intro hcheck
    split at hcheck
    case isTrue hname => cases hcheck; exact .name hname
    case isFalse hname =>
      split at hcheck
      case h_1 issue hissue =>
        cases hcheck
        exact .value hname (FieldType.issue?_eq_some_iff.mp hissue)
      case h_2 => cases hcheck
  · intro hfaulty
    cases hfaulty with
    | name hname => rw [if_pos hname]
    | value hname hissue => rw [if_neg hname, FieldType.issue?_eq_some_iff.mpr hissue]

theorem Faulty.not_sound {error : Error} (hfaulty : field.Faulty error) : ¬field.Sound := by
  intro hsound
  have hsame := (check_eq_error_iff.mpr hfaulty).symm.trans (check_eq_ok_iff.mpr hsound)
  cases hsame

end Field

end FullText
