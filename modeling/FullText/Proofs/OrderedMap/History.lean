import FullText.Proofs.OrderedMap

/-!
Ordered maps and their histories. Values are put under names and names are taken out, in any order.
A map holds under a name what was put there last, unless the name has been taken since. Its names
stand in the order in which they came: a name comes when it is put and is not there, and it keeps
its place until it is taken, however often it is put in between.
-/

namespace FullText

/-- A list with a new last member is split at that member or at one that it had before. -/
theorem concat_eq_append_cons_iff {α : Type} {all before after : List α} {last member : α} :
    all ++ [last] = before ++ member :: after ↔
      (all = before ∧ last = member ∧ after = []) ∨
        ∃ rest, all = before ++ member :: rest ∧ after = rest ++ [last] := by
  constructor
  · intro hsplit
    cases after using List.reverseRecOn with
    | nil =>
        obtain ⟨hall, hlast⟩ := List.append_inj' hsplit rfl
        exact .inl ⟨hall, List.singleton_inj.mp hlast, rfl⟩
    | append_singleton rest final =>
        rw [← List.cons_append, ← List.append_assoc] at hsplit
        obtain ⟨hall, hlast⟩ := List.append_inj' hsplit rfl
        obtain rfl := List.singleton_inj.mp hlast
        exact .inr ⟨rest, hall, rfl⟩
  · rintro (⟨rfl, rfl, rfl⟩ | ⟨rest, rfl, rfl⟩)
    · rfl
    · simp

namespace OrderedMap

variable {α : Type}

/-! ### Changes -/

/-- A change to a map. -/
inductive Change (α : Type) where
  | put (name : String) (value : α)
  | take (name : String)

/-- The name that a change is about. -/
def Change.name : Change α → String
  | .put name _ => name
  | .take name => name

def changed (m : OrderedMap α) : Change α → OrderedMap α
  | .put name value => m.put name value
  | .take name => (m.take name).2

/-- The empty map after changes, one after another. -/
def afterAll (changes : List (Change α)) : OrderedMap α :=
  changes.foldl changed ∅

/-- A value was the last to be put under a name, which has not been taken since. -/
def PutLast (changes : List (Change α)) (name : String) (value : α) : Prop :=
  ∃ before after, changes = before ++ .put name value :: after ∧
    ∀ change ∈ after, change.name ≠ name

/-- A name is there: it was put and has not been taken since. -/
def Present (changes : List (Change α)) (name : String) : Prop :=
  ∃ before value after, changes = before ++ .put name value :: after ∧ .take name ∉ after

/-- A name that is there came with the change at a place: it was put there, and it was not there
before. -/
def CameAt (changes : List (Change α)) (name : String) (place : Nat) : Prop :=
  ∃ before value after, changes = before ++ .put name value :: after ∧ before.length = place ∧
    ¬Present before name ∧ .take name ∉ after

/-- What changes leave: the last value under each name that is there, and the names in the order in
which they came. -/
structure Follows (m : OrderedMap α) (changes : List (Change α)) : Prop where
  get?_eq_some_iff : ∀ name value, m.get? name = some value ↔ PutLast changes name value
  mem_names_iff_present : ∀ name, name ∈ m.names ↔ Present changes name
  names_ordered : m.names.Pairwise fun first second =>
    ∀ place later, CameAt changes first place → CameAt changes second later → place < later

/-! ### One more change -/

section Concat

variable {changes : List (Change α)} {change : Change α} {name : String} {value : α} {place : Nat}

theorem putLast_concat_iff : PutLast (changes ++ [change]) name value ↔
    change = .put name value ∨ change.name ≠ name ∧ PutLast changes name value := by
  constructor
  · rintro ⟨before, after, hsplit, hafter⟩
    obtain ⟨rfl, rfl, rfl⟩ | ⟨rest, rfl, rfl⟩ := concat_eq_append_cons_iff.mp hsplit
    · exact .inl rfl
    · obtain ⟨hrest, hlast⟩ := List.forall_mem_append.mp hafter
      exact .inr ⟨hlast change (List.mem_singleton_self change), before, rest, rfl, hrest⟩
  · rintro (rfl | ⟨hother, before, after, rfl, hafter⟩)
    · exact ⟨changes, [], rfl, nofun⟩
    · refine ⟨before, after ++ [change], by simp, List.forall_mem_append.mpr ⟨hafter, ?_⟩⟩
      simpa using hother

theorem present_concat_iff : Present (changes ++ [change]) name ↔
    (∃ value, change = .put name value) ∨ change ≠ .take name ∧ Present changes name := by
  constructor
  · rintro ⟨before, value, after, hsplit, hafter⟩
    obtain ⟨rfl, rfl, rfl⟩ | ⟨rest, rfl, rfl⟩ := concat_eq_append_cons_iff.mp hsplit
    · exact .inl ⟨value, rfl⟩
    · rw [List.mem_append, List.mem_singleton, not_or] at hafter
      exact .inr ⟨Ne.symm hafter.2, before, value, rest, rfl, hafter.1⟩
  · rintro (⟨value, rfl⟩ | ⟨hkept, before, value, after, rfl, hafter⟩)
    · exact ⟨changes, value, [], rfl, List.not_mem_nil⟩
    · exact ⟨before, value, after ++ [change], by simp, by simp [hafter, hkept.symm]⟩

theorem cameAt_concat_iff : CameAt (changes ++ [change]) name place ↔
    ((∃ value, change = .put name value) ∧ place = changes.length ∧ ¬Present changes name) ∨
      change ≠ .take name ∧ CameAt changes name place := by
  constructor
  · rintro ⟨before, value, after, hsplit, rfl, hnew, hafter⟩
    obtain ⟨rfl, rfl, rfl⟩ | ⟨rest, rfl, rfl⟩ := concat_eq_append_cons_iff.mp hsplit
    · exact .inl ⟨⟨value, rfl⟩, rfl, hnew⟩
    · rw [List.mem_append, List.mem_singleton, not_or] at hafter
      exact .inr ⟨Ne.symm hafter.2, before, value, rest, rfl, rfl, hnew, hafter.1⟩
  · rintro (⟨⟨value, rfl⟩, rfl, hnew⟩ | ⟨hkept, before, value, after, rfl, rfl, hnew, hafter⟩)
    · exact ⟨changes, value, [], rfl, rfl, hnew, List.not_mem_nil⟩
    · exact ⟨before, value, after ++ [change], by simp, rfl, hnew, by simp [hafter, hkept.symm]⟩

theorem CameAt.present (hcame : CameAt changes name place) : Present changes name := by
  obtain ⟨before, value, after, hsplit, -, -, hafter⟩ := hcame
  exact ⟨before, value, after, hsplit, hafter⟩

theorem CameAt.lt_length (hcame : CameAt changes name place) : place < changes.length := by
  obtain ⟨before, value, after, rfl, rfl, -⟩ := hcame
  simp

/-- A name that is there does not come again. -/
theorem CameAt.of_concat (hcame : CameAt (changes ++ [change]) name place)
    (hpresent : Present changes name) : CameAt changes name place := by
  obtain ⟨-, -, hnew⟩ | ⟨-, hcame⟩ := cameAt_concat_iff.mp hcame
  · exact absurd hpresent hnew
  · exact hcame

/-- A name that comes with the last change comes after all that were there. -/
theorem CameAt.eq_length (hcame : CameAt (changes ++ [change]) name place)
    (hnew : ¬Present changes name) : place = changes.length := by
  obtain ⟨-, hplace, -⟩ | ⟨-, hold⟩ := cameAt_concat_iff.mp hcame
  · exact hplace
  · exact absurd hold.present hnew

end Concat

/-- Every name that is there came at some place. -/
theorem present_iff_exists_cameAt {changes : List (Change α)} {name : String} :
    Present changes name ↔ ∃ place, CameAt changes name place := by
  refine ⟨fun hpresent => ?_, fun ⟨_, hcame⟩ => hcame.present⟩
  induction changes using List.reverseRecOn with
  | nil => simp [Present] at hpresent
  | append_singleton changes change ih =>
      obtain hput | ⟨hkept, hold⟩ := present_concat_iff.mp hpresent
      -- A name that is put while it is there keeps its place, and otherwise it comes now.
      · by_cases hold : Present changes name
        · obtain ⟨place, hcame⟩ := ih hold
          obtain ⟨value, rfl⟩ := hput
          exact ⟨place, cameAt_concat_iff.mpr (.inr ⟨nofun, hcame⟩)⟩
        · exact ⟨changes.length, cameAt_concat_iff.mpr (.inl ⟨hput, rfl, hold⟩)⟩
      · obtain ⟨place, hcame⟩ := ih hold
        exact ⟨place, cameAt_concat_iff.mpr (.inr ⟨hkept, hcame⟩)⟩

/-! ### Maps follow their changes -/

section Step

variable {m : OrderedMap α} {changes : List (Change α)}

theorem follows_empty : Follows (∅ : OrderedMap α) [] where
  get?_eq_some_iff name value := by
    have hnone : (∅ : OrderedMap α).get? name = none := rfl
    simp [hnone, PutLast]
  mem_names_iff_present name := by
    have hnil : (∅ : OrderedMap α).names = [] := rfl
    simp [hnil, Present]
  names_ordered := List.Pairwise.nil

/-- The names that a change leaves keep their order. -/
theorem Follows.ordered_of_sublist (hfollows : m.Follows changes) (change : Change α)
    {names : List String} (hsublist : names.Sublist m.names) :
    names.Pairwise fun first second => ∀ place later, CameAt (changes ++ [change]) first place →
      CameAt (changes ++ [change]) second later → place < later := by
  refine (hfollows.names_ordered.sublist hsublist).imp_of_mem ?_
  intro first second hfirst hsecond hordered place later hplace hlater
  have hpresent (name : String) (hname : name ∈ names) : Present changes name :=
    (hfollows.mem_names_iff_present name).mp (hsublist.subset hname)
  exact hordered place later (hplace.of_concat (hpresent first hfirst))
    (hlater.of_concat (hpresent second hsecond))

theorem Follows.put (hfollows : m.Follows changes) (name : String) (value : α) :
    (m.put name value).Follows (changes ++ [.put name value]) where
  get?_eq_some_iff other found := by
    rw [get?_put, putLast_concat_iff, ← hfollows.get?_eq_some_iff]
    by_cases hname : name = other
    · simp [hname, Change.name]
    · simp [hname, Change.name]
  mem_names_iff_present other := by
    rw [present_concat_iff, ← hfollows.mem_names_iff_present, names_put]
    split
    case isTrue hold =>
      refine ⟨fun hother => .inr ⟨nofun, hother⟩, ?_⟩
      rintro (⟨_, ⟨⟩⟩ | ⟨-, hother⟩)
      · exact hold
      · exact hother
    case isFalse hnew => simp [eq_comm, or_comm]
  names_ordered := by
    rw [names_put]
    split
    case isTrue => exact hfollows.ordered_of_sublist _ (List.Sublist.refl _)
    case isFalse hnew =>
      -- The new name stands behind all the others, and its place is the length of the history.
      refine List.pairwise_append.mpr
        ⟨hfollows.ordered_of_sublist _ (List.Sublist.refl _), List.pairwise_singleton _ _, ?_⟩
      intro old hold new hmem place later hplace hlater
      obtain rfl := List.mem_singleton.mp hmem
      rw [hfollows.mem_names_iff_present] at hold hnew
      rw [hlater.eq_length hnew]
      exact (hplace.of_concat hold).lt_length

theorem Follows.take (hfollows : m.Follows changes) (name : String) :
    (m.take name).2.Follows (changes ++ [.take name]) := by
  rw [take_eq]
  refine ⟨fun other found => ?_, fun other => ?_, ?_⟩
  · rw [get?_erase, putLast_concat_iff, ← hfollows.get?_eq_some_iff]
    by_cases hname : name = other
    · simp [hname, Change.name]
    · simp [hname, Change.name]
  · rw [present_concat_iff, ← hfollows.mem_names_iff_present, names_erase, List.mem_filter,
      bne_iff_ne]
    constructor
    · rintro ⟨hold, hother⟩
      exact .inr ⟨fun h => hother (Change.take.inj h).symm, hold⟩
    · rintro (⟨_, ⟨⟩⟩ | ⟨hkept, hold⟩)
      exact ⟨hold, fun h => hkept (h ▸ rfl)⟩
  · rw [names_erase]
    exact hfollows.ordered_of_sublist _ List.filter_sublist

theorem Follows.changed (hfollows : m.Follows changes) (change : Change α) :
    (m.changed change).Follows (changes ++ [change]) := by
  cases change with
  | put name value => exact hfollows.put name value
  | take name => exact hfollows.take name

end Step

theorem afterAll_follows (changes : List (Change α)) : (afterAll changes).Follows changes :=
  follows_foldl follows_empty (fun _ _ change hfollows => hfollows.changed change) changes

end OrderedMap

end FullText
