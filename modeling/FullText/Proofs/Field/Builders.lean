import FullText.Proofs.Field.Soundness
import FullText.Proofs.Schema.Columns

/-!
Fields described loosely and fields built step by step. A builder starts from the plain field of a
kind and has steps for what fields of that kind can be; a loose description sets any options at all.
It is accepted exactly when there is a step for each of its options and their values make sense, and
then it gives the field that is built by these steps, which every schema takes where its name is
free.
-/

namespace FullText

/-! ### Building a field -/

/-- A step in building a field. -/
inductive Setting where
  | weight (weight : Float)
  | separator (separator : String)
  | noStem
  | sortable
  | noIndex

/-- A type after one more step. There are steps only for what fields of a kind can be. -/
def FieldType.set? : FieldType → Setting → Option FieldType
  | .text _ noStem sortable noIndex, .weight weight => some (.text weight noStem sortable noIndex)
  | .text weight _ sortable noIndex, .noStem => some (.text weight true sortable noIndex)
  | .text weight noStem _ noIndex, .sortable => some (.text weight noStem true noIndex)
  | .text weight noStem sortable _, .noIndex => some (.text weight noStem sortable true)
  | .tag _ sortable noIndex, .separator separator => some (.tag separator sortable noIndex)
  | .tag separator _ noIndex, .sortable => some (.tag separator true noIndex)
  | .tag separator sortable _, .noIndex => some (.tag separator sortable true)
  | .numeric _ noIndex, .sortable => some (.numeric true noIndex)
  | .numeric sortable _, .noIndex => some (.numeric sortable true)
  | .geo _, .noIndex => some (.geo true)
  | _, _ => none

/-- The field of a kind before any step. -/
def FieldKind.plain (name : String) : FieldKind → Field
  | .text => .text name
  | .tag => .tag name
  | .numeric => .numeric name
  | .geo => .geo name
  | .geoShape => .geoShape name
  | .vector => .vector name

/-- The field of a kind after some steps. -/
def Field.build? (kind : FieldKind) (name : String) (steps : List Setting) : Option Field :=
  (steps.foldlM FieldType.set? (kind.plain name).type).map fun type => { name, type }

/-! ### Loose descriptions -/

/-- The options that fields of a kind have. -/
def FieldKind.options : FieldKind → List FieldOption
  | .text => [.sortable, .noIndex, .weight, .noStem]
  | .tag => [.sortable, .noIndex, .separator]
  | .numeric => [.sortable, .noIndex]
  | .geo => [.noIndex]
  | .geoShape | .vector => []

/-- All options, in the order in which they are looked at. -/
def FieldOption.all : List FieldOption :=
  [.sortable, .noIndex, .weight, .noStem, .separator]

namespace FieldOptions

/-- Whether an option is set, be it to its usual value. -/
def sets (options : FieldOptions) : FieldOption → Bool
  | .sortable => options.sortable.isSome
  | .noIndex => options.noIndex.isSome
  | .weight => options.weight.isSome
  | .noStem => options.noStem.isSome
  | .separator => options.separator.isSome

/-- The steps that the options stand for. A flag stands for one where it is set to true. -/
def steps (options : FieldOptions) : List Setting :=
  (options.weight.map Setting.weight).toList ++ (options.separator.map Setting.separator).toList ++
  (if options.noStem = some true then [.noStem] else []) ++
  (if options.sortable = some true then [.sortable] else []) ++
  (if options.noIndex = some true then [.noIndex] else [])

/-- Every option that is set is one that fields of the kind have. -/
def Fits (options : FieldOptions) (kind : FieldKind) : Prop :=
  ∀ option, options.sets option → option ∈ kind.options

/-- A weight that is set is a positive number, and a separator that is set a single character. -/
structure ValuesSound (options : FieldOptions) : Prop where
  weight : ∀ weight, options.weight = some weight → weight.isFinite = true ∧ 0 < weight
  separator : ∀ separator, options.separator = some separator → ∃ c, separator.toList = [c]

/-- A value that makes no sense, and how it is told. -/
inductive FaultyValue (options : FieldOptions) : ValueIssue → Prop where
  | weight {weight : Float} (hset : options.weight = some weight)
      (hweight : ¬(weight.isFinite = true ∧ 0 < weight)) :
      FaultyValue options (.weightNotPositive weight)
  | separator {separator : String} (hset : options.separator = some separator)
      (hseparator : ¬∃ c, separator.toList = [c]) :
      FaultyValue options (.separatorLength separator)

/-- The options describe a field of a kind and a name. -/
structure Describes (options : FieldOptions) (kind : FieldKind) (name : String) : Prop where
  name_ne_empty : name ≠ ""
  fits : options.Fits kind
  values_sound : options.ValuesSound

/-- Why options do not describe a field of a kind and a name, and how it is told: the name comes
first, then the first option that is not one of the kind, and the values last. -/
inductive Misdescribes (options : FieldOptions) (kind : FieldKind) (name : String) :
    Error → Prop where
  | name (hname : name = "") : Misdescribes options kind name .emptyFieldName
  | option {option : FieldOption} {before after : List FieldOption} (hname : name ≠ "")
      (horder : FieldOption.all = before ++ option :: after)
      (hbefore : ∀ earlier ∈ before, options.sets earlier → earlier ∈ kind.options)
      (hset : options.sets option) (hunsupported : option ∉ kind.options) :
      Misdescribes options kind name (.invalidFieldOption kind option)
  | value {issue : ValueIssue} (hname : name ≠ "") (hfits : options.Fits kind)
      (hvalue : options.FaultyValue issue) :
      Misdescribes options kind name (.invalidValue name issue)

variable {options : FieldOptions} {kind : FieldKind} {name : String}

/-! ### Options looked at in order -/

theorem present_eq_filter (options : FieldOptions) :
    options.present = FieldOption.all.filter options.sets := by
  rcases options with ⟨_ | _, _ | _, _ | _, _ | _, _ | _⟩ <;> rfl

theorem supports_eq_decide (kind : FieldKind) (option : FieldOption) :
    kind.supports option = decide (option ∈ kind.options) := by
  cases kind <;> cases option <;> rfl

theorem find?_present (options : FieldOptions) (kind : FieldKind) :
    (options.present.find? fun option => !kind.supports option) =
      FieldOption.all.find? fun option =>
        options.sets option && decide (option ∉ kind.options) := by
  rw [present_eq_filter, List.find?_filter]
  simp [supports_eq_decide]

theorem mem_all (option : FieldOption) : option ∈ FieldOption.all := by
  cases option <;> decide

theorem find?_present_eq_none_iff :
    (options.present.find? fun option => !kind.supports option) = none ↔ options.Fits kind := by
  rw [find?_present, List.find?_eq_none]
  simp [Fits, mem_all]

theorem find?_present_eq_some_iff {option : FieldOption} :
    (options.present.find? fun option => !kind.supports option) = some option ↔
      (options.sets option ∧ option ∉ kind.options) ∧
        ∃ before after, FieldOption.all = before ++ option :: after ∧
          ∀ earlier ∈ before, options.sets earlier → earlier ∈ kind.options := by
  rw [find?_present, List.find?_eq_some_iff_append]
  simp [or_iff_not_imp_left]

/-! ### Values -/

theorem valuesSound_iff_not_faultyValue :
    options.ValuesSound ↔ ∀ issue, ¬options.FaultyValue issue := by
  constructor
  · rintro ⟨hweight, hseparator⟩ issue hfaulty
    cases hfaulty with
    | weight hset hnot => exact hnot (hweight _ hset)
    | separator hset hnot => exact hnot (hseparator _ hset)
  · intro hnone
    exact ⟨fun weight hset => not_not.mp fun hnot => hnone _ (.weight hset hnot),
      fun separator hset => not_not.mp fun hnot => hnone _ (.separator hset hnot)⟩

/-- If the usual value is as it should be, one that is not has been set. -/
private theorem exists_of_not_getD {α : Type} {p : α → Prop} {set : Option α} {usual : α}
    (husual : p usual) (hnot : ¬p (set.getD usual)) : ∃ value, set = some value ∧ ¬p value := by
  cases set with
  | none => exact absurd husual hnot
  | some value => exact ⟨value, rfl, hnot⟩

/-- Only a value that is set can make no sense, since the usual ones do. -/
theorem fieldType_faulty_iff (hfits : options.Fits kind) {issue : ValueIssue} :
    (options.fieldType kind).Faulty issue ↔ options.FaultyValue issue := by
  constructor
  · intro hfaulty
    cases kind with
    | text =>
        cases hfaulty with
        | weight hweight =>
            obtain ⟨weight, hset, hnot⟩ := exists_of_not_getD
              (p := fun weight : Float => weight.isFinite = true ∧ 0 < weight) (by decide) hweight
            rw [hset]
            exact .weight hset hnot
    | tag =>
        cases hfaulty with
        | separator hseparator =>
            obtain ⟨separator, hset, hnot⟩ := exists_of_not_getD
              (p := fun separator : String => ∃ c, separator.toList = [c]) ⟨',', rfl⟩ hseparator
            rw [hset]
            exact .separator hset hnot
    | numeric | geo | geoShape | vector => cases hfaulty
  · intro hfaulty
    cases hfaulty with
    | weight hset hweight =>
        have hkind := hfits .weight (by rw [sets, hset]; rfl)
        cases kind with
        | text =>
            rw [fieldType, hset]
            exact .weight hweight
        | tag | numeric | geo | geoShape | vector => exact absurd hkind (by decide)
    | separator hset hseparator =>
        have hkind := hfits .separator (by rw [sets, hset]; rfl)
        cases kind with
        | tag =>
            rw [fieldType, hset]
            exact .separator hseparator
        | text | numeric | geo | geoShape | vector => exact absurd hkind (by decide)

theorem fieldType_sound_iff (hfits : options.Fits kind) :
    (options.fieldType kind).Sound ↔ options.ValuesSound := by
  rw [FieldType.sound_iff_not_faulty, valuesSound_iff_not_faultyValue]
  simp only [fieldType_faulty_iff hfits]

end FieldOptions

/-! ### Steps -/

namespace FieldType

/-- Steps that lead from one type to another. -/
def Leads (steps : List Setting) (before after : FieldType) : Prop :=
  steps.foldlM set? before = some after

namespace Leads

theorem nil (type : FieldType) : Leads [] type type :=
  rfl

theorem append {first second : List Setting} {before middle after : FieldType}
    (hfirst : Leads first before middle) (hsecond : Leads second middle after) :
    Leads (first ++ second) before after := by
  rw [Leads, List.foldlM_append, hfirst]
  exact hsecond

/-- A flag stands for a single step or for none. -/
theorem flag (set : Option Bool) (step : Setting) (type : Bool → FieldType)
    (hstep : (type false).set? step = some (type true)) :
    Leads (if set = some true then [step] else []) (type false) (type (set.getD false)) := by
  rcases set with _ | _ | _
  · exact nil _
  · exact nil _
  · rw [if_pos rfl, Leads, List.foldlM_cons, hstep]
    rfl

/-- A value stands for a single step or for none. -/
theorem value {α : Type} (set : Option α) (step : α → Setting) (type : α → FieldType) (usual : α)
    (hstep : ∀ value, (type usual).set? (step value) = some (type value)) :
    Leads (set.map step).toList (type usual) (type (set.getD usual)) := by
  cases set with
  | none => exact nil _
  | some value =>
      rw [Option.map_some, Option.toList_some, Leads, List.foldlM_cons, hstep]
      rfl

end Leads

end FieldType

namespace FieldOptions

variable {options : FieldOptions} {kind : FieldKind} {name : String}

/-- Options that a kind does not have are not set. -/
theorem Fits.eq_none (hfits : options.Fits kind) :
    (.sortable ∉ kind.options → options.sortable = none) ∧
      (.noIndex ∉ kind.options → options.noIndex = none) ∧
      (.weight ∉ kind.options → options.weight = none) ∧
      (.noStem ∉ kind.options → options.noStem = none) ∧
      (.separator ∉ kind.options → options.separator = none) := by
  refine ⟨?_, ?_, ?_, ?_, ?_⟩
  all_goals
    intro hnot
    exact Option.not_isSome_iff_eq_none.mp fun hset => hnot (hfits _ hset)

open FieldType in
/-- The steps that fitting options stand for lead to the type that the options describe. -/
theorem leads_fieldType (hfits : options.Fits kind) :
    Leads options.steps (kind.plain name).type (options.fieldType kind) := by
  obtain ⟨hsortable, hnoIndex, hweight, hnoStem, hseparator⟩ := hfits.eq_none
  rcases options with ⟨sortable, noIndex, weight, noStem, separator⟩
  cases kind with
  | text =>
      cases hseparator (by decide)
      have hfirst := Leads.value weight .weight (.text · false false false) 1 fun _ => rfl
      have hsecond := Leads.flag noStem .noStem (.text (weight.getD 1) · false false) rfl
      have hthird := Leads.flag sortable .sortable
        (.text (weight.getD 1) (noStem.getD false) · false) rfl
      have hlast := Leads.flag noIndex .noIndex
        (.text (weight.getD 1) (noStem.getD false) (sortable.getD false) ·) rfl
      exact (((hfirst.append (.nil _)).append hsecond).append hthird).append hlast
  | tag =>
      cases hweight (by decide)
      cases hnoStem (by decide)
      have hfirst := Leads.value separator .separator (.tag · false false) "," fun _ => rfl
      have hsecond := Leads.flag sortable .sortable (.tag (separator.getD ",") · false) rfl
      have hlast := Leads.flag noIndex .noIndex
        (.tag (separator.getD ",") (sortable.getD false) ·) rfl
      exact ((((Leads.nil _).append hfirst).append (.nil _)).append hsecond).append hlast
  | numeric =>
      cases hweight (by decide)
      cases hnoStem (by decide)
      cases hseparator (by decide)
      have hfirst := Leads.flag sortable .sortable (.numeric · false) rfl
      have hlast := Leads.flag noIndex .noIndex (.numeric (sortable.getD false) ·) rfl
      exact (((Leads.nil _).append (.nil _)).append hfirst).append hlast
  | geo =>
      cases hweight (by decide)
      cases hnoStem (by decide)
      cases hseparator (by decide)
      cases hsortable (by decide)
      exact Leads.flag noIndex .noIndex .geo rfl
  | geoShape | vector =>
      cases hweight (by decide)
      cases hnoStem (by decide)
      cases hseparator (by decide)
      cases hsortable (by decide)
      cases hnoIndex (by decide)
      exact .nil _

end FieldOptions

/-! ### Descriptions and builders -/

namespace Field

variable {options : FieldOptions} {kind : FieldKind} {name : String} {field : Field}

theorem define_unnamed : define kind "" options = .error .emptyFieldName :=
  rfl

theorem define_unsupported (hname : name ≠ "") {option : FieldOption}
    (hfind : (options.present.find? fun option => !kind.supports option) = some option) :
    define kind name options = .error (.invalidFieldOption kind option) := by
  rw [define, if_neg hname, hfind]
  rfl

/-- Where the options fit, what is left to do is the check of the field. -/
theorem define_fitting (hname : name ≠ "") (hfits : options.Fits kind) :
    define kind name options = (check { name, type := options.fieldType kind }).map fun _ =>
      { name, type := options.fieldType kind } := by
  rw [define, if_neg hname, FieldOptions.find?_present_eq_none_iff.mpr hfits]
  rfl

theorem define_eq_ok_iff :
    define kind name options = .ok field ↔
      options.Describes kind name ∧ field = { name, type := options.fieldType kind } := by
  by_cases hname : name = ""
  · subst hname
    exact iff_of_false nofun fun ⟨hdescribes, _⟩ => hdescribes.name_ne_empty rfl
  by_cases hfits : options.Fits kind
  · have hsound : Sound { name, type := options.fieldType kind } ↔ options.Describes kind name := by
      constructor
      · exact fun hsound => ⟨hname, hfits,
          (FieldOptions.fieldType_sound_iff hfits).mp hsound.type_sound⟩
      · exact fun hdescribes => ⟨hname,
          (FieldOptions.fieldType_sound_iff hfits).mpr hdescribes.values_sound⟩
    rw [define_fitting hname hfits, map_eq_ok_iff, ← hsound, ← check_eq_ok_iff]
    exact ⟨fun ⟨_, hcheck, hfield⟩ => ⟨hcheck, hfield.symm⟩,
      fun ⟨hcheck, hfield⟩ => ⟨(), hcheck, hfield.symm⟩⟩
  · obtain ⟨option, hfind⟩ := Option.ne_none_iff_exists'.mp
      (mt FieldOptions.find?_present_eq_none_iff.mp hfits)
    rw [define_unsupported hname hfind]
    exact iff_of_false nofun fun ⟨hdescribes, _⟩ => hfits hdescribes.fits

theorem define_eq_error_iff {error : Error} :
    define kind name options = .error error ↔ options.Misdescribes kind name error := by
  constructor
  · intro hdefine
    by_cases hname : name = ""
    · subst hname
      cases hdefine
      exact .name rfl
    cases hfind : options.present.find? fun option => !kind.supports option with
    | some option =>
        rw [define_unsupported hname hfind] at hdefine
        cases hdefine
        obtain ⟨⟨hset, hunsupported⟩, before, after, horder, hbefore⟩ :=
          FieldOptions.find?_present_eq_some_iff.mp hfind
        exact .option hname horder hbefore hset hunsupported
    | none =>
        have hfits := FieldOptions.find?_present_eq_none_iff.mp hfind
        rw [define_fitting hname hfits, ← failure?_eq_some_iff, failure?_map, failure?_eq_some_iff,
          check_eq_error_iff] at hdefine
        cases hdefine with
        | name hempty => exact absurd hempty hname
        | value _ hissue =>
            exact .value hname hfits ((FieldOptions.fieldType_faulty_iff hfits).mp hissue)
  · intro hwrong
    cases hwrong with
    | name hname =>
        subst hname
        exact define_unnamed
    | option hname horder hbefore hset hunsupported =>
        exact define_unsupported hname (FieldOptions.find?_present_eq_some_iff.mpr
          ⟨⟨hset, hunsupported⟩, _, _, horder, hbefore⟩)
    | value hname hfits hvalue =>
        have hissue := (FieldOptions.fieldType_faulty_iff hfits).mpr hvalue
        rw [define_fitting hname hfits, check_eq_error_iff.mpr (.value hname hissue)]
        rfl

theorem build?_steps (hfits : options.Fits kind) :
    build? kind name options.steps = some { name, type := options.fieldType kind } := by
  rw [build?, FieldOptions.leads_fieldType hfits]
  rfl

/-- A loose description is accepted exactly if it has a name, sets none but the options of its kind
and gives them values that make sense. Then it is the field that is built by the steps which the
options stand for, and every schema that has no field of the name yet takes it. What is told of any
other description is the first thing that is wrong with it. -/
theorem loose_builds_typed (kind : FieldKind) (name : String) (options : FieldOptions) :
    ((∃ field, define kind name options = .ok field) ↔ options.Describes kind name) ∧
      (∀ field, define kind name options = .ok field →
        build? kind name options.steps = some field ∧
          ∀ schema : Schema, name ∉ schema.fields.map Field.name →
            schema.addField field = .ok { schema with fields := schema.fields ++ [field] }) ∧
      ∀ error, define kind name options = .error error ↔ options.Misdescribes kind name error := by
  refine ⟨?_, ?_, fun error => define_eq_error_iff⟩
  · simp only [define_eq_ok_iff, exists_and_left, exists_eq, and_true]
  · intro field hdefine
    obtain ⟨hdescribes, rfl⟩ := define_eq_ok_iff.mp hdefine
    refine ⟨build?_steps hdescribes.fits, fun schema hfree => ?_⟩
    refine Schema.addField_eq_ok_iff.mpr ⟨?_, Schema.field?_eq_none_iff.mpr hfree, rfl⟩
    have hsound := (FieldOptions.fieldType_sound_iff hdescribes.fits).mpr hdescribes.values_sound
    exact check_eq_ok_iff.mpr ⟨hdescribes.name_ne_empty, hsound⟩

/-- A title that counts twice. -/
def weightyTitle : FieldOptions where
  sortable := some true
  weight := some 2
  noStem := some false

/-- An index of books that has no titles yet. -/
def yearbook : Schema where
  name := "books"
  fields := [.numeric "year"]

theorem weightyTitle_built :
    ∃ field, define .text "title" weightyTitle = .ok field ∧
      build? .text "title" [.weight 2, .sortable] = some field ∧
      "title" ∉ yearbook.fields.map Field.name ∧
      yearbook.addField field = .ok { yearbook with fields := yearbook.fields ++ [field] } := by
  obtain ⟨-, hdefined, -⟩ := loose_builds_typed .text "title" weightyTitle
  have hdefine : define .text "title" weightyTitle = .ok (.text "title" 2 false true) := rfl
  have hfree : "title" ∉ yearbook.fields.map Field.name := by decide
  obtain ⟨hbuild, hadd⟩ := hdefined _ hdefine
  exact ⟨_, hdefine, hbuild, hfree, hadd yearbook hfree⟩

/-- Places have neither a weight nor an order, and that they have no order is told. -/
example : define .geo "place" { weight := some 0, sortable := some false } =
    .error (.invalidFieldOption .geo .sortable) := by
  rfl

end Field

end FullText
