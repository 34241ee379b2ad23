import FullText.Catalog
import FullText.Proofs.Metrics
import FullText.Proofs.OrderedMap

/-!
The catalog and its history. Whatever schemas were registered and removed before, the catalog shows
those that are left, each under its name, and counts them. A name is left with the schema of the
last change about it, if that was a registration.
-/

namespace FullText

namespace Catalog

/-- A change to a catalog. -/
inductive Change where
  | register (schema : Schema)
  | unregister (name : String)

namespace Change

/-- The name that a change is about. -/
def name : Change → String
  | .register schema => schema.name
  | .unregister name => name

/-- The schema that a change puts under its name, if it does not remove the name. -/
def schema? : Change → Option Schema
  | .register schema => some schema
  | .unregister _ => none

end Change

def changed (catalog : Catalog) : Change → Catalog
  | .register schema => catalog.register schema
  | .unregister name => (catalog.unregister name).2

/-- A new catalog after changes, one after another. -/
def afterAll (changes : List Change) : Catalog :=
  changes.foldl changed {}

/-- The schema that changes leave under a name: that of the last change about it. -/
def standing? (changes : List Change) (name : String) : Option Schema :=
  (changes.reverse.find? fun change => change.name == name).bind Change.schema?

/-- The reading of the gauge of registered schemas, if it was ever set. -/
def gauge? (catalog : Catalog) : Option Reading :=
  Metrics.reading? catalog.metrics (Metric.registeredSchemas 0).series

/-- A catalog shows what changes have left: whoever looks a schema up, removes one, lists the names
or counts them is told of the schemas that are standing. -/
structure Shows (catalog : Catalog) (changes : List Change) : Prop where
  get?_eq : ∀ name, catalog.get? name = standing? changes name
  resolve_eq : ∀ name, catalog.resolve name =
    (standing? changes name).elim (.error (.schemaNotRegistered name)) .ok
  /-- Removing a name tells whether it was there. -/
  unregister_eq : ∀ name, (catalog.unregister name).1 = (standing? changes name).isSome
  /-- In order, and none twice. -/
  names_sorted : catalog.names.Pairwise (· < ·)
  mem_names_iff : ∀ name, name ∈ catalog.names ↔ (standing? changes name).isSome
  size_eq : catalog.size = catalog.names.length
  /-- From the first registration on, the gauge tells how many schemas there are. -/
  gauge_eq : catalog.gauge? =
    if changes.any (·.schema?.isSome) then some (.gauge catalog.size) else none

/-! ### The schemas follow the changes -/

theorem standing?_concat (changes : List Change) (change : Change) (name : String) :
    standing? (changes ++ [change]) name =
      if change.name = name then change.schema? else standing? changes name := by
  simp only [standing?, List.reverse_append, List.reverse_singleton, List.singleton_append,
    List.find?_cons]
  by_cases hname : change.name = name
  · simp [hname]
  · have hdiffer : (change.name == name) = false := beq_eq_false_iff_ne.mpr hname
    rw [if_neg hname, hdiffer]

/-- A schema stands under its own name only. -/
theorem name_eq_of_standing? {changes : List Change} {name : String} {schema : Schema}
    (hstanding : standing? changes name = some schema) : schema.name = name := by
  obtain ⟨change, hfind, hschema⟩ := Option.bind_eq_some_iff.mp hstanding
  have hname : change.name = name := by simpa using List.find?_some hfind
  cases change with
  | register registered =>
      cases hschema
      exact hname
  | unregister removed => cases hschema

/-- A catalog with the standing schema under each name, and with a gauge that was set at the last
change. -/
structure Follows (catalog : Catalog) (changes : List Change) : Prop where
  get?_eq : ∀ name, catalog.schemas.get? name = standing? changes name
  gauge_eq : catalog.gauge? =
    if changes.any (·.schema?.isSome) then some (.gauge catalog.size) else none

theorem gauge?_measured (catalog : Catalog) :
    catalog.measured.gauge? = some (.gauge catalog.measured.size) := by
  rw [gauge?, measured, Metrics.reading?_concat]
  exact if_pos rfl

section Step

variable {catalog : Catalog} {changes : List Change}

theorem follows_empty : Follows {} [] :=
  ⟨fun _ => rfl, rfl⟩

theorem Follows.register (hfollows : catalog.Follows changes) (schema : Schema) :
    (catalog.register schema).Follows (changes ++ [.register schema]) where
  get?_eq name := by
    rw [standing?_concat, ← hfollows.get?_eq]
    exact OrderedMap.get?_put _ _ _ _
  gauge_eq := by
    rw [Catalog.register, gauge?_measured]
    simp [Change.schema?]

/-- A name can only be there to be removed if it was registered. -/
theorem Follows.registered (hfollows : catalog.Follows changes) {name : String}
    (hcontains : catalog.schemas.contains name = true) :
    changes.any (·.schema?.isSome) = true := by
  rw [OrderedMap.contains, hfollows.get?_eq] at hcontains
  obtain ⟨schema, hstanding⟩ := Option.isSome_iff_exists.mp hcontains
  obtain ⟨change, hchange, hschema⟩ := Option.bind_eq_some_iff.mp hstanding
  have hmem : change ∈ changes := List.mem_reverse.mp (List.mem_of_find?_eq_some hchange)
  exact List.any_eq_true.mpr ⟨change, hmem, Option.isSome_iff_exists.mpr ⟨schema, hschema⟩⟩

theorem Follows.unregister (hfollows : catalog.Follows changes) (name : String) :
    (catalog.unregister name).2.Follows (changes ++ [.unregister name]) := by
  rw [Catalog.unregister]
  split
  case isTrue hcontains =>
    refine ⟨fun other => ?_, ?_⟩
    · rw [standing?_concat, ← hfollows.get?_eq]
      exact OrderedMap.get?_erase _ _ _
    · rw [gauge?_measured]
      simp [hfollows.registered hcontains]
  case isFalse habsent =>
    refine ⟨fun other => ?_, ?_⟩
    · rw [standing?_concat, ← hfollows.get?_eq]
      split
      case isTrue hname =>
        rw [← hname]
        exact Option.not_isSome_iff_eq_none.mp habsent
      case isFalse => rfl
    · rw [hfollows.gauge_eq]
      simp [Change.schema?]

theorem Follows.changed (hfollows : catalog.Follows changes) (change : Change) :
    (catalog.changed change).Follows (changes ++ [change]) := by
  cases change with
  | register schema => exact hfollows.register schema
  | unregister name => exact hfollows.unregister name

end Step

theorem afterAll_follows (changes : List Change) : (afterAll changes).Follows changes :=
  follows_foldl follows_empty (fun _ _ change hfollows => hfollows.changed change) changes

/-! ### What is shown -/

theorem pairwise_names (catalog : Catalog) : catalog.names.Pairwise (· < ·) := by
  have htrans : ∀ a b c : String, decide (a ≤ b) = true → decide (b ≤ c) = true →
      decide (a ≤ c) = true := by
    intro a b c hab hbc
    exact decide_eq_true (String.le_trans (of_decide_eq_true hab) (of_decide_eq_true hbc))
  have htotal : ∀ a b : String, (decide (a ≤ b) || decide (b ≤ a)) = true := by
    intro a b
    simp [String.le_total]
  have hsorted : catalog.names.Pairwise fun a b => decide (a ≤ b) = true :=
    List.pairwise_mergeSort htrans htotal catalog.schemas.names
  have hdistinct : catalog.names.Nodup :=
    (List.mergeSort_perm _ _).nodup_iff.mpr catalog.schemas.names_nodup
  refine hsorted.imp₂ (fun a b hab hne => ?_) hdistinct
  have hle : a ≤ b := of_decide_eq_true hab
  exact String.not_le.mp fun hba => hne (String.le_antisymm hle hba)

theorem mem_names {catalog : Catalog} {name : String} :
    name ∈ catalog.names ↔ name ∈ catalog.schemas.names :=
  (List.mergeSort_perm _ _).mem_iff

theorem Follows.shows {catalog : Catalog} {changes : List Change}
    (hfollows : catalog.Follows changes) : catalog.Shows changes where
  get?_eq := hfollows.get?_eq
  resolve_eq name := by
    rw [resolve, get?, hfollows.get?_eq]
    cases standing? changes name with
    | none => rfl
    | some schema => rfl
  unregister_eq name := by
    rw [← hfollows.get?_eq, Catalog.unregister]
    change _ = catalog.schemas.contains name
    cases catalog.schemas.contains name with
    | false => rfl
    | true => rfl
  names_sorted := pairwise_names catalog
  mem_names_iff name := by
    rw [mem_names, OrderedMap.mem_names_iff, hfollows.get?_eq]
  size_eq := by
    rw [names, List.length_mergeSort, OrderedMap.names, List.length_map]
    rfl
  gauge_eq := hfollows.gauge_eq

/-- A new catalog shows what any changes have left. -/
theorem afterAll_shows (changes : List Change) : (afterAll changes).Shows changes :=
  (afterAll_follows changes).shows

example :
    (afterAll [.register { name := "users" }, .unregister "books", .register { name := "books" },
      .unregister "users", .register { name := "users" }]).names = ["books", "users"] := by
  cbv

end Catalog

end FullText
