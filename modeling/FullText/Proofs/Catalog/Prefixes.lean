import FullText.Proofs.Catalog
import FullText.Proofs.Text.Lead

/-!
The schema that a key belongs to, after any changes to the catalog. Of the schemas that are left,
those with a prefix of the key compete for it. A longer prefix wins, and of several schemas with a
prefix of one length the one whose name came first: a name comes when it is registered and does not
stand, and it keeps its place until it is removed, however often it is registered in between.
-/

namespace FullText

namespace Catalog

/-! ### The order in which names came -/

/-- A name came with the registration at a place and has not been removed since. -/
def StandsSince (changes : List Change) (name : String) (place : Nat) : Prop :=
  ∃ before schema after, changes = before ++ .register schema :: after ∧ before.length = place ∧
    schema.name = name ∧ standing? before name = none ∧ Change.unregister name ∉ after

/-- Two names stand, and the first one came before the second one. -/
def Earlier (changes : List Change) (first second : String) : Prop :=
  ∃ place later, StandsSince changes first place ∧ StandsSince changes second later ∧ place < later

section Places

variable {changes : List Change} {change : Change} {name other : String} {place later : Nat}

theorem StandsSince.lt_length (hsince : StandsSince changes name place) :
    place < changes.length := by
  obtain ⟨before, schema, after, rfl, rfl, -⟩ := hsince
  simp

theorem StandsSince.concat (hsince : StandsSince changes name place)
    (hkept : change ≠ .unregister name) : StandsSince (changes ++ [change]) name place := by
  obtain ⟨before, schema, after, rfl, hplace, hname, hnew, hafter⟩ := hsince
  refine ⟨before, schema, after ++ [change], by simp, hplace, hname, hnew, ?_⟩
  simp [hafter, hkept.symm]

theorem standsSince_registered {schema : Schema} (hnew : standing? changes schema.name = none) :
    StandsSince (changes ++ [.register schema]) schema.name changes.length :=
  ⟨changes, schema, [], rfl, rfl, rfl, hnew, List.not_mem_nil⟩

/-- A name that was registered and has not been removed since is standing. -/
theorem standing?_of_kept (before : List Change) {schema : Schema} {after : List Change}
    (hafter : Change.unregister schema.name ∉ after) :
    (standing? (before ++ .register schema :: after) schema.name).isSome := by
  induction after using List.reverseRecOn with
  | nil =>
      have hname : (Change.register schema).name = schema.name := rfl
      rw [standing?_concat, if_pos hname]
      rfl
  | append_singleton after change ih =>
      rw [List.mem_append, List.mem_singleton, not_or] at hafter
      rw [← List.cons_append, ← List.append_assoc, standing?_concat]
      split
      case isTrue hname =>
        cases change with
        | register registered => rfl
        | unregister removed => exact absurd (congrArg Change.unregister hname.symm) hafter.2
      case isFalse => exact ih hafter.1

/-- A name does not come again while it stands. -/
private theorem StandsSince.not_lt (hsince : StandsSince changes name place)
    (hlater : StandsSince changes name later) : ¬ place < later := by
  intro hlt
  obtain ⟨before, schema, after, hsplit, rfl, rfl, -, hafter⟩ := hsince
  obtain ⟨before', schema', after', hsplit', rfl, -, hnew', -⟩ := hlater
  obtain ⟨middle, rfl, hmiddle⟩ | ⟨middle, rfl, -⟩ :=
    List.append_eq_append_iff.mp (hsplit.symm.trans hsplit')
  · cases middle with
    | nil => simp at hlt
    | cons change middle =>
        obtain ⟨rfl, rfl⟩ := List.cons.inj hmiddle
        have hkept : Change.unregister schema.name ∉ middle := fun h =>
          hafter (List.mem_append_left _ h)
        have hstands := standing?_of_kept before hkept
        rw [hnew'] at hstands
        cases hstands
  · rw [List.length_append] at hlt
    omega

theorem StandsSince.unique (hsince : StandsSince changes name place)
    (hlater : StandsSince changes name later) : place = later :=
  Nat.le_antisymm (Nat.not_lt.mp (hlater.not_lt hsince)) (Nat.not_lt.mp (hsince.not_lt hlater))

theorem exists_standsSince (hstanding : (standing? changes name).isSome) :
    ∃ place, StandsSince changes name place := by
  induction changes using List.reverseRecOn with
  | nil => cases hstanding
  | append_singleton changes change ih =>
      rw [standing?_concat] at hstanding
      split at hstanding
      case isTrue hname =>
        cases change with
        | unregister removed => cases hstanding
        | register schema =>
            cases hname
            cases hbefore : standing? changes schema.name with
            | none => exact ⟨_, standsSince_registered hbefore⟩
            | some old =>
                obtain ⟨place, hsince⟩ := ih (by rw [Change.name, hbefore]; rfl)
                exact ⟨place, hsince.concat nofun⟩
      case isFalse hname =>
        obtain ⟨place, hsince⟩ := ih hstanding
        exact ⟨place, hsince.concat fun h => hname (h ▸ rfl)⟩

theorem Earlier.asymm (hearlier : Earlier changes name other) : ¬ Earlier changes other name := by
  rintro ⟨place', later', hother', hname', hlt'⟩
  obtain ⟨place, later, hname, hother, hlt⟩ := hearlier
  have hplace : place = later' := hname.unique hname'
  have hlater : later = place' := hother.unique hother'
  omega

theorem Earlier.concat (hearlier : Earlier changes name other)
    (hname : change ≠ .unregister name) (hother : change ≠ .unregister other) :
    Earlier (changes ++ [change]) name other := by
  obtain ⟨place, later, hplace, hlater, hlt⟩ := hearlier
  exact ⟨place, later, hplace.concat hname, hlater.concat hother, hlt⟩

/-- A name that comes with a change comes after all the names that stand. -/
theorem earlier_registered {schema : Schema} (hstanding : (standing? changes name).isSome)
    (hnew : standing? changes schema.name = none) :
    Earlier (changes ++ [.register schema]) name schema.name := by
  obtain ⟨place, hsince⟩ := exists_standsSince hstanding
  exact ⟨place, changes.length, hsince.concat nofun, standsSince_registered hnew, hsince.lt_length⟩

end Places

theorem names_unregister (catalog : Catalog) (name : String) :
    (catalog.unregister name).2.schemas.names = catalog.schemas.names.filter (· != name) := by
  rw [Catalog.unregister]
  split
  case isTrue => exact OrderedMap.names_erase _ _
  case isFalse habsent =>
    refine (List.filter_eq_self.mpr fun other hother => ?_).symm
    have hne : other ≠ name := fun h => habsent (OrderedMap.mem_names_iff.mp (h ▸ hother))
    exact bne_iff_ne.mpr hne

theorem afterAll_concat (changes : List Change) (change : Change) :
    afterAll (changes ++ [change]) = (afterAll changes).changed change :=
  List.foldl_append

/-- The catalog keeps its names in the order in which they came. -/
theorem pairwise_earlier (changes : List Change) :
    (afterAll changes).schemas.names.Pairwise (Earlier changes) := by
  induction changes using List.reverseRecOn with
  | nil => exact List.Pairwise.nil
  | append_singleton changes change ih =>
      have hfollows := afterAll_follows changes
      rw [afterAll_concat]
      cases change with
      | register schema =>
          have hold : (afterAll changes).schemas.names.Pairwise
              (Earlier (changes ++ [.register schema])) :=
            ih.imp fun hearlier => hearlier.concat nofun nofun
          change ((afterAll changes).schemas.put schema.name schema).names.Pairwise _
          rw [OrderedMap.names_put]
          split
          case isTrue => exact hold
          case isFalse hnew =>
            refine List.pairwise_append.mpr ⟨hold, List.pairwise_singleton _ _, ?_⟩
            intro name hname new hmem
            obtain rfl := List.mem_singleton.mp hmem
            rw [OrderedMap.mem_names_iff, hfollows.get?_eq] at hname hnew
            exact earlier_registered hname (Option.not_isSome_iff_eq_none.mp hnew)
      | unregister removed =>
          change ((afterAll changes).unregister removed).2.schemas.names.Pairwise _
          rw [names_unregister]
          refine (ih.filter _).imp_of_mem fun {first second} hfirst hsecond hearlier => ?_
          have hkept : ∀ name, name ∈ (afterAll changes).schemas.names.filter (· != removed) →
              Change.unregister removed ≠ .unregister name := by
            intro name hname h
            cases h
            simp at hname
          exact hearlier.concat (hkept first hfirst) (hkept second hsecond)

/-! ### The first of the longest -/

section Longest

variable {α : Type} {pairs : List (α × Nat)} {best : α × Nat}

theorem firstLongest?_concat (pairs : List (α × Nat)) (pair : α × Nat) :
    firstLongest? (pairs ++ [pair]) =
      match firstLongest? pairs with
      | none => some pair
      | some best => if best.2 < pair.2 then some pair else some best := by
  rw [firstLongest?, List.foldl_append, List.foldl_cons, List.foldl_nil, ← firstLongest?]
  cases firstLongest? pairs with
  | none => rfl
  | some best => rfl

theorem firstLongest?_eq_none_iff : firstLongest? pairs = none ↔ pairs = [] := by
  constructor
  · intro hnone
    cases pairs using List.reverseRecOn with
    | nil => rfl
    | append_singleton pairs pair =>
        rw [firstLongest?_concat] at hnone
        split at hnone
        · cases hnone
        · split at hnone <;> cases hnone
  · rintro rfl
    rfl

/-- The pairs in front of the first longest one are shorter, and those behind it not longer. -/
theorem split_of_firstLongest? (hbest : firstLongest? pairs = some best) :
    ∃ before after, pairs = before ++ best :: after ∧ (∀ pair ∈ before, pair.2 < best.2) ∧
      ∀ pair ∈ after, pair.2 ≤ best.2 := by
  induction pairs using List.reverseRecOn generalizing best with
  | nil => cases hbest
  | append_singleton pairs pair ih =>
      rw [firstLongest?_concat] at hbest
      cases hold : firstLongest? pairs with
      | none =>
          rw [hold] at hbest
          cases hbest
          obtain rfl := firstLongest?_eq_none_iff.mp hold
          exact ⟨[], [], rfl, nofun, nofun⟩
      | some old =>
          obtain ⟨before, after, rfl, hbefore, hafter⟩ := ih hold
          simp only [hold] at hbest
          split at hbest
          case isTrue hlonger =>
            cases hbest
            refine ⟨before ++ old :: after, [], rfl, fun other hother => ?_, nofun⟩
            rw [List.mem_append, List.mem_cons] at hother
            obtain hmem | rfl | hmem := hother
            · exact Nat.lt_trans (hbefore other hmem) hlonger
            · exact hlonger
            · exact Nat.lt_of_le_of_lt (hafter other hmem) hlonger
          case isFalse hshorter =>
            cases hbest
            refine ⟨before, after ++ [pair], by simp, hbefore, fun other hother => ?_⟩
            obtain hmem | hmem := List.mem_append.mp hother
            · exact hafter other hmem
            · obtain rfl := List.mem_singleton.mp hmem
              exact Nat.not_lt.mp hshorter

end Longest

/-! ### Keys -/

/-- A schema that is left covers a key by one of its prefixes. -/
structure Covers (changes : List Change) (key : String) (schema : Schema) (lead : String) :
    Prop where
  standing : standing? changes schema.name = some schema
  owned : ∃ leads, schema.keyPrefixes = some leads ∧ lead ∈ leads
  matching : ∃ rest, key = lead ++ rest

/-- A schema wins a key by one of its prefixes: no schema covers the key by a longer one, and all
the others that cover it by one of that length came later. -/
structure Wins (changes : List Change) (key : String) (schema : Schema) (lead : String) :
    Prop where
  covers : Covers changes key schema lead
  longest : ∀ other rival, Covers changes key other rival →
    rival.utf8ByteSize ≤ lead.utf8ByteSize
  first : ∀ other rival, Covers changes key other rival →
    rival.utf8ByteSize = lead.utf8ByteSize → other ≠ schema →
      Earlier changes schema.name other.name

section Keys

variable {changes : List Change} {key : String} {schema : Schema}

theorem Wins.unique {other : Schema} {lead rival : String} (hwins : Wins changes key schema lead)
    (hother : Wins changes key other rival) : other = schema := by
  have hsize : rival.utf8ByteSize = lead.utf8ByteSize :=
    Nat.le_antisymm (hwins.longest _ _ hother.covers) (hother.longest _ _ hwins.covers)
  by_contra hne
  have hbefore : Earlier changes schema.name other.name :=
    hwins.first other rival hother.covers hsize hne
  have hafter : Earlier changes other.name schema.name :=
    hother.first schema lead hwins.covers hsize.symm (Ne.symm hne)
  exact hbefore.asymm hafter

theorem name_eq_of_mem_entries {name : String}
    (hmem : (name, schema) ∈ (afterAll changes).schemas.entries) : schema.name = name := by
  have hfollows := afterAll_follows changes
  have hget := OrderedMap.get?_of_mem hmem
  rw [hfollows.get?_eq] at hget
  exact name_eq_of_standing? hget

theorem mem_values_iff :
    schema ∈ (afterAll changes).schemas.values ↔ standing? changes schema.name = some schema := by
  have hfollows := afterAll_follows changes
  constructor
  · intro hmem
    obtain ⟨⟨name, _⟩, hentry, rfl⟩ := List.mem_map.mp hmem
    rw [← hfollows.get?_eq, name_eq_of_mem_entries hentry]
    exact OrderedMap.get?_of_mem hentry
  · intro hstanding
    rw [← hfollows.get?_eq] at hstanding
    exact List.mem_map_of_mem (f := (·.2)) (OrderedMap.mem_of_get? hstanding)

theorem values_pairwise_earlier (changes : List Change) :
    (afterAll changes).schemas.values.Pairwise fun first second =>
      Earlier changes first.name second.name := by
  rw [OrderedMap.values, List.pairwise_map]
  refine (List.pairwise_map.mp (pairwise_earlier changes)).imp_of_mem fun hfirst hsecond h => ?_
  rwa [name_eq_of_mem_entries hfirst, name_eq_of_mem_entries hsecond]

theorem mem_prefixMatches_iff {size : Nat} :
    (schema, size) ∈ (afterAll changes).prefixMatches key ↔
      ∃ lead, Covers changes key schema lead ∧ lead.utf8ByteSize = size := by
  have howned : ∀ lead, lead ∈ schema.prefixes ↔
      ∃ leads, schema.keyPrefixes = some leads ∧ lead ∈ leads := by
    intro lead
    cases hleads : schema.keyPrefixes with
    | none => simp [Schema.prefixes, hleads]
    | some leads => simp [Schema.prefixes, hleads]
  simp only [prefixMatches, List.mem_flatMap, List.mem_map, List.mem_filter, Prod.mk.injEq]
  constructor
  · rintro ⟨_, hmem, lead, ⟨hlead, hstarts⟩, rfl, hsize⟩
    exact ⟨lead, ⟨mem_values_iff.mp hmem, (howned lead).mp hlead, Text.startsWith_iff.mp hstarts⟩,
      hsize⟩
  · rintro ⟨lead, hcovers, hsize⟩
    exact ⟨schema, mem_values_iff.mpr hcovers.standing, lead,
      ⟨(howned lead).mpr hcovers.owned, Text.startsWith_iff.mpr hcovers.matching⟩, rfl, hsize⟩

/-- The pairs of one schema stand together, and those of an earlier one stand in front. -/
theorem prefixMatches_pairwise (changes : List Change) (key : String) :
    ((afterAll changes).prefixMatches key).Pairwise fun first second =>
      first.1 = second.1 ∨ Earlier changes first.1.name second.1.name := by
  rw [prefixMatches, List.pairwise_flatMap]
  refine ⟨fun schema _ => List.pairwise_map.mpr (List.pairwise_of_forall fun _ _ => .inl rfl), ?_⟩
  refine (values_pairwise_earlier changes).imp fun hearlier first hfirst second hsecond => ?_
  obtain ⟨_, -, rfl⟩ := List.mem_map.mp hfirst
  obtain ⟨_, -, rfl⟩ := List.mem_map.mp hsecond
  exact .inr hearlier

theorem wins_of_firstLongest? {best : Schema × Nat}
    (hbest : firstLongest? ((afterAll changes).prefixMatches key) = some best) :
    ∃ lead, Wins changes key best.1 lead := by
  obtain ⟨before, after, hsplit, hbefore, hafter⟩ := split_of_firstLongest? hbest
  have hmem : best ∈ (afterAll changes).prefixMatches key := by simp [hsplit]
  obtain ⟨lead, hcovers, hsize⟩ := mem_prefixMatches_iff.mp hmem
  have horder := prefixMatches_pairwise changes key
  rw [hsplit, List.pairwise_append, List.pairwise_cons] at horder
  obtain ⟨-, ⟨hfirst, -⟩, -⟩ := horder
  -- Whatever covers the key is among the pairs, so it stands on one side of the best one.
  have hside : ∀ other rival, Covers changes key other rival →
      rival.utf8ByteSize < best.2 ∨ other = best.1 ∧ rival.utf8ByteSize = best.2 ∨
        (other, rival.utf8ByteSize) ∈ after := by
    intro other rival hother
    have hpair := mem_prefixMatches_iff.mpr ⟨rival, hother, rfl⟩
    rw [hsplit, List.mem_append, List.mem_cons] at hpair
    obtain hpair | hpair | hpair := hpair
    · exact .inl (hbefore _ hpair)
    · exact .inr (.inl ⟨congrArg Prod.fst hpair, congrArg Prod.snd hpair⟩)
    · exact .inr (.inr hpair)
  refine ⟨lead, hcovers, fun other rival hother => ?_, fun other rival hother hsame hne => ?_⟩
  · rw [hsize]
    obtain hshorter | ⟨-, hequal⟩ | hbehind := hside other rival hother
    · exact Nat.le_of_lt hshorter
    · exact Nat.le_of_eq hequal
    · exact hafter _ hbehind
  · rw [hsize] at hsame
    obtain hshorter | ⟨hequal, -⟩ | hbehind := hside other rival hother
    · exact absurd hsame (Nat.ne_of_lt hshorter)
    · exact absurd hequal hne
    · exact (hfirst _ hbehind).resolve_left (Ne.symm hne)

theorem schemaForKey?_eq_none_iff :
    (afterAll changes).schemaForKey? key = none ↔
      ∀ schema lead, ¬ Covers changes key schema lead := by
  rw [schemaForKey?, Option.map_eq_none_iff, firstLongest?_eq_none_iff,
    List.eq_nil_iff_forall_not_mem]
  constructor
  · intro hnone schema lead hcovers
    exact hnone _ (mem_prefixMatches_iff.mpr ⟨lead, hcovers, rfl⟩)
  · intro hnone pair hpair
    obtain ⟨lead, hcovers, -⟩ := mem_prefixMatches_iff.mp hpair
    exact hnone pair.1 lead hcovers

theorem schemaForKey?_eq_some_iff :
    (afterAll changes).schemaForKey? key = some schema ↔ ∃ lead, Wins changes key schema lead := by
  constructor
  · intro hsome
    obtain ⟨best, hbest, rfl⟩ := Option.map_eq_some_iff.mp hsome
    exact wins_of_firstLongest? hbest
  · rintro ⟨lead, hwins⟩
    cases hanswer : (afterAll changes).schemaForKey? key with
    | none => exact absurd hwins.covers (schemaForKey?_eq_none_iff.mp hanswer schema lead)
    | some other =>
        obtain ⟨best, hbest, rfl⟩ := Option.map_eq_some_iff.mp hanswer
        obtain ⟨rival, hother⟩ := wins_of_firstLongest? hbest
        rw [hwins.unique hother]

end Keys

/-- The answer to whom a key belongs is right for what changes have left. -/
structure Allotted (changes : List Change) (key : String) (answer : Option Schema) : Prop where
  none_iff : answer = none ↔ ∀ schema lead, ¬ Covers changes key schema lead
  some_iff : ∀ schema, answer = some schema ↔ ∃ lead, Wins changes key schema lead
  /-- The empty prefix is one of every key. -/
  isSome_of_empty : ∀ schema leads, standing? changes schema.name = some schema →
    schema.keyPrefixes = some leads → "" ∈ leads → Covers changes key schema "" ∧ answer.isSome
  keyPrefixes_ne_nil : ∀ schema, answer = some schema →
    ∃ leads, schema.keyPrefixes = some leads ∧ leads ≠ []

/-- After any changes, a key belongs to the schema with the longest prefix of it, and of several to
the one that came first. -/
theorem longest_prefix_wins (changes : List Change) (key : String) :
    Allotted changes key ((afterAll changes).schemaForKey? key) where
  none_iff := schemaForKey?_eq_none_iff
  some_iff _ := schemaForKey?_eq_some_iff
  isSome_of_empty schema leads hstanding hleads hempty := by
    have hcovers : Covers changes key schema "" :=
      ⟨hstanding, ⟨leads, hleads, hempty⟩, key, String.empty_append.symm⟩
    refine ⟨hcovers, Option.isSome_iff_ne_none.mpr fun hnone => ?_⟩
    exact schemaForKey?_eq_none_iff.mp hnone schema "" hcovers
  keyPrefixes_ne_nil schema hanswer := by
    obtain ⟨lead, hwins⟩ := schemaForKey?_eq_some_iff.mp hanswer
    obtain ⟨leads, hleads, hmem⟩ := hwins.covers.owned
    exact ⟨leads, hleads, List.ne_nil_of_mem hmem⟩

example :
    ((afterAll [.register { name := "all", keyPrefixes := some [""] },
      .register { name := "users", keyPrefixes := some ["user:"] },
      .register { name := "people", keyPrefixes := some ["user:"] }, .unregister "users",
      .register { name := "users", keyPrefixes := some ["user:"] }]).schemaForKey? "user:1").map
        (·.name) = some "people" := by
  cbv

end Catalog

end FullText
