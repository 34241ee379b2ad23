import FullText.Query.Compilation
import Mathlib.Data.List.Basic

/-!
The groups of joined items. They hold the items in their order, none of them is empty, and two items
stand in the same group exactly when no item behind the first and up to the second is joined by
`or`.
-/

namespace FullText

/-- The same joint in front of something made of the item. -/
def Joined.map {α β : Type} (f : α → β) (part : Joined α) : Joined β :=
  { junction := part.junction, predicate := f part.predicate }

namespace Query

variable {α β : Type}

theorem splitGroups_flatten (parts : List (Joined α)) :
    (splitGroups parts).1 ++ (splitGroups parts).2.flatten = parts.map Joined.predicate := by
  induction parts with
  | nil => rfl
  | cons part parts ih =>
      obtain ⟨junction, item⟩ := part
      cases junction with
      | and => simp [splitGroups, ← ih]
      | or => simp [splitGroups, ← ih]

theorem groups_flatten (parts : List (Joined α)) :
    (groups parts).flatten = parts.map Joined.predicate := by
  cases parts with
  | nil => rfl
  | cons part parts => simp [groups, ← splitGroups_flatten parts]

theorem splitGroups_ne_nil (parts : List (Joined α)) :
    ∀ group ∈ (splitGroups parts).2, group ≠ [] := by
  induction parts with
  | nil => simp [splitGroups]
  | cons part parts ih =>
      obtain ⟨junction, item⟩ := part
      cases junction with
      | and => exact ih
      | or => exact List.forall_mem_cons.mpr ⟨List.cons_ne_nil _ _, ih⟩

theorem groups_ne_nil (parts : List (Joined α)) : ∀ group ∈ groups parts, group ≠ [] := by
  cases parts with
  | nil => simp [groups]
  | cons part parts =>
      exact List.forall_mem_cons.mpr ⟨List.cons_ne_nil _ _, splitGroups_ne_nil parts⟩

theorem splitGroups_map (f : α → β) (parts : List (Joined α)) :
    splitGroups (parts.map (Joined.map f)) =
      ((splitGroups parts).1.map f, (splitGroups parts).2.map (List.map f)) := by
  induction parts with
  | nil => rfl
  | cons part parts ih =>
      obtain ⟨junction, item⟩ := part
      cases junction with
      | and => simp [splitGroups, Joined.map, ih]
      | or => simp [splitGroups, Joined.map, ih]

/-- Items are grouped by the way they are joined and not by what they are. -/
theorem groups_map (f : α → β) (parts : List (Joined α)) :
    groups (parts.map (Joined.map f)) = (groups parts).map (List.map f) := by
  cases parts with
  | nil => rfl
  | cons part parts => simp [groups, Joined.map, splitGroups_map]

/-! ### Items in one group -/

/-- Two items stand in one group. -/
def Together (groups : List (List α)) (a b : α) : Prop :=
  ∃ group ∈ groups, a ∈ group ∧ b ∈ group

theorem together_cons_iff {group : List α} {groups : List (List α)} {a b : α} :
    Together (group :: groups) a b ↔ (a ∈ group ∧ b ∈ group) ∨ Together groups a b := by
  simp [Together]

/-- No item behind a position and up to another is joined by `or`. -/
def NoOrBetween (marks : List (Joined Nat)) (i j : Nat) : Prop :=
  ∀ mark ∈ marks, i < mark.predicate → mark.predicate ≤ j → mark.junction = .and

section Increasing

variable {mark : Joined Nat} {marks : List (Joined Nat)} {i j : Nat}

private theorem mem_of_mem_splitGroups {group : List Nat}
    (hgroup : group ∈ (splitGroups marks).2) (hi : i ∈ group) :
    i ∈ marks.map Joined.predicate := by
  rw [← splitGroups_flatten]
  exact List.mem_append_right _ (List.mem_flatten_of_mem hgroup hi)

/-- The rest of a group that has begun ends in front of the first `or`. -/
theorem mem_splitGroups_run (hmarks : (marks.map Joined.predicate).Pairwise (· < ·))
    (hj : j ∈ marks.map Joined.predicate) :
    j ∈ (splitGroups marks).1 ↔
      ∀ mark ∈ marks, mark.predicate ≤ j → mark.junction = .and := by
  induction marks with
  | nil => cases hj
  | cons mark marks ih =>
      obtain ⟨junction, position⟩ := mark
      obtain ⟨hlow, htail⟩ := List.pairwise_cons.mp hmarks
      have hle : position ≤ j := by
        rcases List.mem_cons.mp hj with rfl | hj
        · exact Nat.le_refl _
        · exact Nat.le_of_lt (hlow j hj)
      cases junction with
      | or =>
          constructor
          · intro h
            cases h
          · intro h
            cases h _ List.mem_cons_self hle
      | and =>
          rcases List.mem_cons.mp hj with rfl | hj
          · refine ⟨fun _ => List.forall_mem_cons.mpr ⟨fun _ => rfl, ?_⟩,
              fun _ => List.mem_cons_self⟩
            intro later hlater hback
            exact absurd hback (Nat.not_le_of_lt (hlow _ (List.mem_map_of_mem hlater)))
          · have hne : j ≠ position := Nat.ne_of_gt (hlow j hj)
            simp only [splitGroups, List.mem_cons, hne, false_or, ih htail hj, forall_eq_or_imp]
            exact (and_iff_right fun _ => trivial).symm

private theorem together_cons
    (hmarks : ((mark :: marks).map Joined.predicate).Pairwise (· < ·))
    (hrest : ∀ i j, i < j → i ∈ marks.map Joined.predicate → j ∈ marks.map Joined.predicate →
      (Together ((splitGroups marks).1 :: (splitGroups marks).2) i j ↔ NoOrBetween marks i j))
    (hij : i < j) (hi : i ∈ (mark :: marks).map Joined.predicate)
    (hj : j ∈ (mark :: marks).map Joined.predicate) :
    Together ((mark.predicate :: (splitGroups marks).1) :: (splitGroups marks).2) i j ↔
      NoOrBetween (mark :: marks) i j := by
  obtain ⟨hlow, htail⟩ := List.pairwise_cons.mp hmarks
  have hle : mark.predicate ≤ i := by
    rcases List.mem_cons.mp hi with rfl | hi
    · exact Nat.le_refl _
    · exact Nat.le_of_lt (hlow i hi)
  have hjrest : j ∈ marks.map Joined.predicate :=
    (List.mem_cons.mp hj).resolve_left (by omega)
  have hfront : NoOrBetween (mark :: marks) i j ↔ NoOrBetween marks i j := by
    simp only [NoOrBetween, List.forall_mem_cons]
    exact and_iff_right fun h => absurd h (Nat.not_lt_of_le hle)
  rw [hfront]
  rcases List.mem_cons.mp hi with rfl | hirest
  · -- Only the group that has begun holds the first item.
    have hlater : ¬ Together (splitGroups marks).2 mark.predicate j := by
      rintro ⟨group, hgroup, hmem, -⟩
      exact Nat.lt_irrefl _ (hlow _ (mem_of_mem_splitGroups hgroup hmem))
    have hrun : Together ((mark.predicate :: (splitGroups marks).1) :: (splitGroups marks).2)
        mark.predicate j ↔ j ∈ (splitGroups marks).1 := by
      have hne : j ≠ mark.predicate := Nat.ne_of_gt hij
      simp [together_cons_iff, hlater, hne]
    rw [hrun, mem_splitGroups_run htail hjrest]
    constructor
    · exact fun h later hlater _ hle => h later hlater hle
    · exact fun h later hlater hle =>
        h later hlater (hlow _ (List.mem_map_of_mem hlater)) hle
  · rw [← hrest i j hij hirest hjrest]
    have hne : ∀ k ∈ marks.map Joined.predicate, k ≠ mark.predicate :=
      fun k hk => Nat.ne_of_gt (hlow k hk)
    simp only [together_cons_iff, List.mem_cons, hne i hirest, hne j hjrest, false_or]

private theorem together_splitGroups (hmarks : (marks.map Joined.predicate).Pairwise (· < ·)) :
    ∀ i j, i < j → i ∈ marks.map Joined.predicate → j ∈ marks.map Joined.predicate →
      (Together ((splitGroups marks).1 :: (splitGroups marks).2) i j ↔ NoOrBetween marks i j) := by
  -- One step is the same for both joints: `or` only puts an empty group in front.
  induction marks with
  | nil =>
      intro i j _ hi
      cases hi
  | cons mark marks ih =>
      intro i j hij hi hj
      have hrest := ih (List.pairwise_cons.mp hmarks).2
      have hcons := together_cons hmarks hrest hij hi hj
      obtain ⟨junction, position⟩ := mark
      cases junction with
      | and => exact hcons
      | or => simpa [splitGroups, together_cons_iff] using hcons

/-- Items in increasing positions stand in one group exactly when no `or` separates them. -/
theorem together_groups (hmarks : (marks.map Joined.predicate).Pairwise (· < ·)) (hij : i < j)
    (hi : i ∈ marks.map Joined.predicate) (hj : j ∈ marks.map Joined.predicate) :
    Together (groups marks) i j ↔ NoOrBetween marks i j := by
  cases marks with
  | nil => cases hi
  | cons mark marks =>
      exact together_cons hmarks (together_splitGroups (List.pairwise_cons.mp hmarks).2) hij hi hj

end Increasing

end Query

end FullText
