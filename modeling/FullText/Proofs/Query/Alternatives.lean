import FullText.Proofs.Query.Groups
import FullText.Proofs.Query.Operands
import FullText.Proofs.Query.ReadBack

/-!
The alternatives of a list of clauses. The text of a list lays the texts of its clauses out in
alternatives between bars. Two clauses stand in different alternatives exactly when a clause between
them, or the second of them, is joined by `or` and says something itself: a clause that says nothing
is passed over together with the way it is joined.
-/

namespace FullText.Query

section Layout

variable (schema : Schema) (config : Config)

/-- The query of a clause, if it compiles to one. -/
def saying? (clause : Clause) : Option Query :=
  (ofPredicate? schema config clause.predicate).toOption.join

/-- The text of the clause at a position, if it says something. -/
def textAt? (clauses : List Clause) (i : Nat) : Option String :=
  (clauses[i]?.bind (saying? schema config)).map text

/-- The clause at a position is joined by `or`, and it says something. -/
def Alternates (clauses : List Clause) (i : Nat) : Prop :=
  clauses[i]?.map Joined.junction = some .or ∧ (textAt? schema config clauses i).isSome

end Layout

/-- The text of an alternative beside others. Several clauses stand in parentheses. -/
def alternativeText (textAt : Nat → String) : List Nat → String
  | [i] => textAt i
  | positions => "(" ++ String.intercalate " " (positions.map textAt) ++ ")"

/-- The text that lays clauses out in alternatives, given by their positions. -/
def layoutText? (textAt : Nat → String) : List (List Nat) → Option String
  | [] => none
  | [positions] => some (String.intercalate " " (positions.map textAt))
  | layout => some (String.intercalate " | " (layout.map (alternativeText textAt)))

/-- A layout of a list of clauses in alternatives: it places the clauses that say something, each
once and in their order, and it makes up the text. -/
structure IsLayout (textAt? : Nat → Option String) (count : Nat) (layout : List (List Nat))
    (text? : Option String) : Prop where
  positions : layout.flatten = (List.range count).filter fun i => (textAt? i).isSome
  inhabited : ∀ alternative ∈ layout, alternative ≠ []
  text : text? = layoutText? (fun i => (textAt? i).getD "") layout

/-! ### Clauses with their positions -/

section Numbered

variable {β : Type} (read? : Clause → Option β) (clauses : List Clause)

def numbered : List (Joined (Nat × β)) :=
  clauses.zipIdx.filterMap fun (clause, i) =>
    (read? clause).map fun said => { junction := clause.junction, predicate := (i, said) }

theorem mem_numbered {part : Joined (Nat × β)} :
    part ∈ numbered read? clauses ↔
      ∃ clause, clauses[part.predicate.1]? = some clause ∧ part.junction = clause.junction ∧
        read? clause = some part.predicate.2 := by
  obtain ⟨junction, i, said⟩ := part
  simp only [numbered, List.mem_filterMap, List.mem_zipIdx_iff_getElem?, Option.map_eq_some_iff,
    Joined.mk.injEq, Prod.mk.injEq, Prod.exists]
  constructor
  · rintro ⟨clause, i, hclause, said, hsaid, rfl, rfl, rfl⟩
    exact ⟨clause, hclause, rfl, hsaid⟩
  · rintro ⟨clause, hclause, rfl, hsaid⟩
    exact ⟨clause, i, hclause, said, hsaid, rfl, rfl, rfl⟩

theorem numbered_said :
    (numbered read? clauses).map (Joined.map Prod.snd) =
      clauses.filterMap fun clause =>
        (read? clause).map fun said => { junction := clause.junction, predicate := said } := by
  have hclauses : clauses = clauses.zipIdx.map Prod.fst := (List.zipIdx_map_fst 0 clauses).symm
  conv_rhs => rw [hclauses]
  rw [numbered, List.map_filterMap, List.filterMap_map]
  apply List.filterMap_congr
  intro item _
  simp only [Option.map_map, Function.comp]
  rfl

theorem numbered_positions :
    (numbered read? clauses).map (fun part => part.predicate.1) =
      (List.range clauses.length).filter fun i => (clauses[i]?.bind read?).isSome := by
  have hrange : List.range clauses.length = clauses.zipIdx.map Prod.snd := by
    rw [List.zipIdx_map_snd, List.range_eq_range']
  rw [numbered, List.map_filterMap, hrange, ← List.filterMap_eq_filter, List.filterMap_map]
  apply List.filterMap_congr
  intro item hitem
  have hclause := List.mem_zipIdx_iff_getElem?.mp hitem
  cases hread : read? item.1 with
  | none => simp [hread, hclause, Option.guard]
  | some said => simp [hread, hclause, Option.guard]

theorem numbered_increasing :
    ((numbered read? clauses).map fun part => part.predicate.1).Pairwise (· < ·) := by
  rw [numbered_positions]
  exact List.pairwise_lt_range.filter _

end Numbered

/-! ### The layout of compiled clauses -/

section Compiled

variable {schema : Schema} {config : Config}

/-- The parts of clauses are the queries of those that say something. -/
theorem partsOf_eq_filterMap {clauses : List Clause} {parts : List (Joined Query)}
    (h : partsOf schema config clauses = .ok parts) :
    parts = clauses.filterMap fun clause =>
      (saying? schema config clause).map fun query =>
        { junction := clause.junction, predicate := query } := by
  induction clauses generalizing parts with
  | nil => exact (Except.ok.inj h).symm
  | cons clause clauses ih =>
      obtain ⟨junction, predicate⟩ := clause
      obtain ⟨query, more, hquery, hmore, rfl⟩ := partsOf_cons_eq_ok_iff.mp h
      have hsaying : saying? schema config { junction, predicate } = query := by
        rw [saying?, hquery]
        rfl
      rw [List.filterMap_cons, hsaying, ← ih hmore]
      cases query with
      | none => rfl
      | some query => rfl

private theorem map_text (textAt : Nat → String) (group : List (Nat × Query))
    (hgroup : ∀ item ∈ group, textAt item.1 = item.2.text) :
    texts (group.map Prod.snd) = (group.map Prod.fst).map textAt := by
  rw [texts_eq_map, List.map_map, List.map_map]
  exact List.map_congr_left fun item hitem => (hgroup item hitem).symm

private theorem alternative_text (textAt : Nat → String) (group : List (Nat × Query))
    (hgroup : ∀ item ∈ group, textAt item.1 = item.2.text) :
    (alternative (group.map Prod.snd)).text = alternativeText textAt (group.map Prod.fst) := by
  have htexts := map_text textAt group hgroup
  rcases group with _ | ⟨item, _ | ⟨next, group⟩⟩
  · rfl
  · exact (hgroup item List.mem_cons_self).symm
  · simp only [List.map_cons] at htexts ⊢
    rw [alternative, alternativeText, Query.text, Query.text, htexts]
    · rfl
    · simp
    · simp

/-- The text of joined queries lays their texts out by their groups. -/
private theorem ofParts?_text (textAt : Nat → String) (parts : List (Joined (Nat × Query)))
    (hparts : ∀ part ∈ parts, textAt part.predicate.1 = part.predicate.2.text) :
    (ofParts? (parts.map (Joined.map Prod.snd))).map text =
      layoutText? textAt (groups (parts.map (Joined.map Prod.fst))) := by
  have hgroups : ∀ group ∈ groups parts, ∀ item ∈ group, textAt item.1 = item.2.text := by
    intro group hgroup item hitem
    have hmem : item ∈ parts.map Joined.predicate := by
      rw [← groups_flatten]
      exact List.mem_flatten_of_mem hgroup hitem
    obtain ⟨part, hpart, rfl⟩ := List.mem_map.mp hmem
    exact hparts part hpart
  have halternatives : texts (((groups parts).map (List.map Prod.snd)).map alternative) =
      ((groups parts).map (List.map Prod.fst)).map (alternativeText textAt) := by
    simp only [texts_eq_map, List.map_map]
    exact List.map_congr_left fun group hgroup =>
      alternative_text textAt group (hgroups group hgroup)
  rw [ofParts?, groups_map, groups_map]
  generalize groups parts = layout at hgroups halternatives
  rcases layout with _ | ⟨group, _ | ⟨next, layout⟩⟩
  · rfl
  · simp only [List.map_cons, List.map_nil, layoutText?, Option.map_some, Query.text,
      map_text textAt group (hgroups group List.mem_cons_self)]
  · exact congrArg (fun texts => some (String.intercalate " | " texts)) halternatives

private theorem alternates_iff {clauses : List Clause} {i : Nat} :
    Alternates schema config clauses i ↔
      ∃ part ∈ numbered (saying? schema config) clauses,
        part.predicate.1 = i ∧ part.junction = .or := by
  unfold Alternates textAt?
  constructor
  · rintro ⟨hjunction, hsaid⟩
    obtain ⟨clause, hclause, hor⟩ := Option.map_eq_some_iff.mp hjunction
    rw [hclause, Option.isSome_map, Option.bind_some] at hsaid
    obtain ⟨query, hquery⟩ := Option.isSome_iff_exists.mp hsaid
    refine ⟨{ junction := .or, predicate := (i, query) }, ?_, rfl, rfl⟩
    exact (mem_numbered _ _).mpr ⟨clause, hclause, hor.symm, hquery⟩
  · rintro ⟨part, hpart, rfl, hor⟩
    obtain ⟨clause, hclause, hjunction, hquery⟩ := (mem_numbered _ _).mp hpart
    simp [hclause, hquery, ← hjunction, hor]

/-- The text of a list of clauses lays their texts out in alternatives, and two clauses stand in
different alternatives exactly when a clause behind the first and up to the second is joined by `or`
and says something. -/
theorem clauses_alternatives {clauses : List Clause} {parts : List (Joined Query)}
    (h : partsOf schema config clauses = .ok parts) :
    ∃ layout, IsLayout (textAt? schema config clauses) clauses.length layout
        ((ofParts? parts).map text) ∧
      ∀ i j, i < j → (textAt? schema config clauses i).isSome →
        (textAt? schema config clauses j).isSome →
        (¬ Together layout i j ↔ ∃ k, i < k ∧ k ≤ j ∧ Alternates schema config clauses k) := by
  let labelled := numbered (saying? schema config) clauses
  let marks := labelled.map (Joined.map Prod.fst)
  have hlabels : marks.map Joined.predicate = labelled.map fun part => part.predicate.1 := by
    simp only [marks, List.map_map]
    rfl
  have hpositions : marks.map Joined.predicate =
      (List.range clauses.length).filter fun i => (textAt? schema config clauses i).isSome := by
    simp only [hlabels, labelled, numbered_positions, textAt?, Option.isSome_map]
  have hincreasing : (marks.map Joined.predicate).Pairwise (· < ·) := by
    rw [hlabels]
    exact numbered_increasing _ _
  have hmem (i : Nat) (hi : (textAt? schema config clauses i).isSome) :
      i ∈ marks.map Joined.predicate := by
    have hlength : i < clauses.length := by
      by_contra hlong
      simp [textAt?, List.getElem?_eq_none (Nat.le_of_not_lt hlong)] at hi
    rw [hpositions]
    exact List.mem_filter.mpr ⟨List.mem_range.mpr hlength, hi⟩
  have hparts : parts = labelled.map (Joined.map Prod.snd) := by
    rw [partsOf_eq_filterMap h, numbered_said]
  have htexts : ∀ part ∈ labelled,
      (textAt? schema config clauses part.predicate.1).getD "" = part.predicate.2.text := by
    intro part hpart
    obtain ⟨clause, hclause, -, hquery⟩ := (mem_numbered _ _).mp hpart
    simp [textAt?, hclause, hquery]
  -- The groups are formed by the joints alone, so the positions are grouped as the queries are.
  refine ⟨groups marks, ⟨?_, groups_ne_nil marks, ?_⟩, ?_⟩
  · rw [groups_flatten, hpositions]
  · rw [hparts]
    exact ofParts?_text _ labelled htexts
  · intro i j hij hi hj
    rw [together_groups hincreasing hij (hmem i hi) (hmem j hj)]
    simp only [alternates_iff, NoOrBetween, marks, List.mem_map]
    constructor
    · intro hnot
      push Not at hnot
      obtain ⟨-, ⟨part, hpart, rfl⟩, hlow, hhigh, hor⟩ := hnot
      refine ⟨part.predicate.1, hlow, hhigh, part, hpart, rfl, ?_⟩
      cases hjunction : part.junction with
      | and => exact absurd hjunction hor
      | or => rfl
    · rintro ⟨-, hlow, hhigh, part, hpart, rfl, hor⟩ hall
      have hand := hall _ ⟨part, hpart, rfl⟩ hlow hhigh
      exact absurd (hor.symm.trans hand) (by decide)

end Compiled

def pair : Schema :=
  { name := "pair", fields := [.numeric "a", .numeric "b"] }

/-- Two comparisons with a blank alternative between them. -/
def blankOr : List Clause :=
  [{ junction := .and, predicate := .test "a" (.compare .eq (.int 1)) },
    { junction := .or, predicate := .raw " " },
    { junction := .and, predicate := .test "b" (.compare .eq (.int 2)) }]

private theorem layout_eq_cons {layout : List (List Nat)} {i : Nat} {more : List Nat}
    (hinhabited : ∀ alternative ∈ layout, alternative ≠ []) (h : layout.flatten = i :: more) :
    ∃ rest later, layout = (i :: rest) :: later ∧ rest ++ later.flatten = more := by
  obtain ⟨empty, rest, later, rfl, hempty, hmore⟩ := List.flatten_eq_cons_iff.mp h
  cases empty with
  | nil => exact ⟨rest, later, rfl, hmore.symm⟩
  | cons alternative empty =>
      exact absurd (hempty alternative List.mem_cons_self)
        (hinhabited alternative List.mem_cons_self)

theorem pair_alternatives :
    ∃ parts layout, partsOf pair {} blankOr = .ok parts ∧
      IsLayout (textAt? pair {} blankOr) 3 layout ((ofParts? parts).map text) ∧
      ∀ i j, i < j → (textAt? pair {} blankOr i).isSome → (textAt? pair {} blankOr j).isSome →
        (¬ Together layout i j ↔ ∃ k, i < k ∧ k ≤ j ∧ Alternates pair {} blankOr k) := by
  have hparts : ∃ parts, partsOf pair {} blankOr = .ok parts := ⟨_, rfl⟩
  obtain ⟨parts, hparts⟩ := hparts
  obtain ⟨layout, hlayout, htogether⟩ := clauses_alternatives hparts
  exact ⟨parts, layout, hparts, hlayout, htogether⟩

/-- A blank clause that is joined by `or` separates nothing: the clauses around it stand in one
alternative, however the text is laid out. -/
theorem blank_or_separates_nothing :
    ∃ parts, partsOf pair {} blankOr = .ok parts ∧
      blankOr[1]?.map Joined.junction = some .or ∧
      (textAt? pair {} blankOr 0).isSome ∧ (textAt? pair {} blankOr 2).isSome ∧
      ∀ layout, IsLayout (textAt? pair {} blankOr) 3 layout ((ofParts? parts).map text) →
        Together layout 0 2 := by
  refine ⟨_, rfl, rfl, rfl, rfl, ?_⟩
  rintro layout ⟨hpositions, hinhabited, htext⟩
  obtain ⟨rest, later, rfl, hmore⟩ :=
    layout_eq_cons hinhabited (hpositions.trans (by rfl) : _ = [0, 2])
  have hlater := (List.forall_mem_cons.mp hinhabited).2
  cases rest with
  | cons next rest =>
      obtain rfl : next = 2 := (List.cons.inj hmore).1
      exact ⟨_, List.mem_cons_self, List.mem_cons_self,
        List.mem_cons_of_mem _ List.mem_cons_self⟩
  | nil =>
      obtain ⟨rest, last, rfl, hnil⟩ := layout_eq_cons hlater hmore
      obtain ⟨rfl, hlast⟩ := List.append_eq_nil_iff.mp hnil
      cases last with
      | nil =>
          have hbar : some "@a:[1 1] @b:[2 2]" = some "@a:[1 1] | @b:[2 2]" := htext
          exact absurd hbar (by decide)
      | cons alternative last =>
          have halternative := (List.forall_mem_cons.mp (List.forall_mem_cons.mp hlater).2).1
          exact absurd (List.append_eq_nil_iff.mp hlast).1 halternative

end FullText.Query
