import FullText.Proofs.Query.FieldClauses
import FullText.Proofs.Query.Groups
import FullText.Proofs.Query.ReadBack

/-!
Clauses that say nothing. Blank query text says nothing, and neither do parentheses with nothing
else in them. Such clauses may be put in anywhere without a difference to the text or the error; a
list of nothing else asks for every document, and only a list that passes on a star does so too.
-/

namespace FullText

/-- A predicate that says nothing. -/
inductive Predicate.Vacuous : Predicate → Prop
  | raw {query : String} (hblank : Text.allBlank query = true) : Predicate.Vacuous (.raw query)
  | nested {clauses : List (Joined Predicate)}
      (hclauses : ∀ clause ∈ clauses, Predicate.Vacuous clause.predicate) :
      Predicate.Vacuous (.nested clauses)

def AllVacuous (clauses : List Clause) : Prop :=
  ∀ clause ∈ clauses, clause.predicate.Vacuous

mutual

/-- A predicate with clauses put in that say nothing. -/
inductive Predicate.Padded : Predicate → Predicate → Prop
  | same (predicate : Predicate) : Predicate.Padded predicate predicate
  | nested {clauses padded : List (Joined Predicate)} (hclauses : ClausesPadded clauses padded) :
      Predicate.Padded (.nested clauses) (.nested padded)

/-- Clauses among which and inside which there are more clauses, joined by `and`, that say
nothing. -/
inductive ClausesPadded : List (Joined Predicate) → List (Joined Predicate) → Prop
  | nil : ClausesPadded [] []
  | keep (junction : Junction) {predicate other : Predicate}
      {clauses padded : List (Joined Predicate)}
      (hpredicate : Predicate.Padded predicate other) (hclauses : ClausesPadded clauses padded) :
      ClausesPadded ({ junction, predicate } :: clauses)
        ({ junction, predicate := other } :: padded)
  | insert {predicate : Predicate} {clauses padded : List (Joined Predicate)}
      (hvacuous : predicate.Vacuous) (hclauses : ClausesPadded clauses padded) :
      ClausesPadded clauses ({ junction := .and, predicate } :: padded)

end

namespace Query

variable {schema : Schema} {config : Config}

/-! ### Vacuous clauses vanish -/

theorem partsOf_cons_vacuous {junction : Junction} {predicate : Predicate}
    (hnone : ofPredicate? schema config predicate = .ok none) (clauses : List Clause) :
    partsOf schema config ({ junction, predicate } :: clauses) = partsOf schema config clauses := by
  rw [partsOf, partOf?, hnone]
  change (partsOf schema config clauses >>= fun parts => pure parts) = _
  rw [bind_pure]

theorem partsOf_append_vacuous {before : List Clause}
    (hnone : ∀ clause ∈ before, ofPredicate? schema config clause.predicate = .ok none)
    (clauses : List Clause) :
    partsOf schema config (before ++ clauses) = partsOf schema config clauses := by
  induction before with
  | nil => rfl
  | cons clause before ih =>
      obtain ⟨hclause, hbefore⟩ := List.forall_mem_cons.mp hnone
      exact (partsOf_cons_vacuous hclause _).trans (ih hbefore)

theorem ofPredicate?_vacuous {predicate : Predicate} (hvacuous : predicate.Vacuous) :
    ofPredicate? schema config predicate = .ok none := by
  induction hvacuous with
  | raw hblank => rw [ofPredicate?, if_pos hblank]
  | @nested clauses _ ih =>
      have hparts := partsOf_append_vacuous ih []
      rw [List.append_nil, partsOf] at hparts
      rw [ofPredicate?, hparts]
      rfl

theorem partsOf_allVacuous {clauses : List Clause} (hvacuous : AllVacuous clauses) :
    partsOf schema config clauses = .ok [] := by
  have hnone (clause : Clause) (hclause : clause ∈ clauses) :
      ofPredicate? schema config clause.predicate = .ok none :=
    ofPredicate?_vacuous (hvacuous clause hclause)
  have hparts := partsOf_append_vacuous hnone []
  rwa [List.append_nil, partsOf] at hparts

mutual

theorem ofPredicate?_padded {predicate padded : Predicate} (hpadded : predicate.Padded padded) :
    ofPredicate? schema config padded = ofPredicate? schema config predicate := by
  cases hpadded with
  | same => rfl
  | nested hclauses => rw [ofPredicate?, ofPredicate?, partsOf_padded hclauses]

theorem partsOf_padded {clauses padded : List (Joined Predicate)}
    (hpadded : ClausesPadded clauses padded) :
    partsOf schema config padded = partsOf schema config clauses := by
  cases hpadded with
  | nil => rfl
  | keep junction hpredicate hclauses =>
      rw [partsOf, partsOf, partOf?, partOf?, ofPredicate?_padded hpredicate,
        partsOf_padded hclauses]
  | insert hvacuous hclauses =>
      rw [partsOf_cons_vacuous (ofPredicate?_vacuous hvacuous), partsOf_padded hclauses]

end

/-! ### What remains says something -/

theorem ofParts?_eq_none_iff {parts : List (Joined Query)} :
    ofParts? parts = none ↔ parts = [] := by
  cases parts with
  | nil => exact iff_of_true rfl rfl
  | cons part parts =>
      refine iff_of_false (fun hnone => ?_) (List.cons_ne_nil _ _)
      rw [ofParts?, groups] at hnone
      split at hnone
      case h_1 hgroups => cases hgroups
      case h_2 => cases hnone
      case h_3 => cases hnone

mutual

/-- A predicate without a query says nothing. -/
theorem vacuous_of_ofPredicate? : (predicate : Predicate) →
    ofPredicate? schema config predicate = .ok none → predicate.Vacuous
  | .test column asked, hnone => by
      rw [ofPredicate?, map_eq_ok_iff] at hnone
      obtain ⟨_, -, hnone⟩ := hnone
      cases hnone
  | .raw query, hnone => by
      rw [ofPredicate?] at hnone
      split at hnone
      case isTrue hblank => exact .raw hblank
      case isFalse => cases hnone
  | .nested clauses, hnone => by
      rw [ofPredicate?] at hnone
      obtain ⟨parts, hparts, hnone⟩ := bind_pure_eq_ok_iff.mp hnone
      obtain rfl := ofParts?_eq_none_iff.mp (Option.map_eq_none_iff.mp hnone)
      exact .nested (vacuous_of_partsOf clauses hparts)

theorem vacuous_of_partsOf : (clauses : List (Joined Predicate)) →
    partsOf schema config clauses = .ok [] → AllVacuous clauses
  | [], _ => nofun
  | { junction, predicate } :: clauses, hnone => by
      obtain ⟨query, more, hquery, hmore, hparts⟩ := partsOf_cons_eq_ok_iff.mp hnone
      obtain ⟨hpart, rfl⟩ := List.append_eq_nil_iff.mp hparts.symm
      obtain rfl := Option.map_eq_none_iff.mp (Option.toList_eq_nil_iff.mp hpart)
      exact List.forall_mem_cons.mpr
        ⟨vacuous_of_ofPredicate? predicate hquery, vacuous_of_partsOf clauses hmore⟩

end

/-- The first query of a list of clauses is that of the first clause that says something. -/
theorem partsOf_eq_cons {clauses : List Clause} {part : Joined Query} {parts : List (Joined Query)}
    (hparts : partsOf schema config clauses = .ok (part :: parts)) :
    ∃ before predicate after,
      clauses = before ++ { junction := part.junction, predicate } :: after ∧ AllVacuous before ∧
        ofPredicate? schema config predicate = .ok (some part.predicate) ∧
        partsOf schema config after = .ok parts := by
  induction clauses with
  | nil =>
      rw [partsOf] at hparts
      cases hparts
  | cons clause clauses ih =>
      obtain ⟨junction, predicate⟩ := clause
      obtain ⟨query, more, hquery, hclauses, happend⟩ := partsOf_cons_eq_ok_iff.mp hparts
      cases query with
      | none =>
          obtain rfl : part :: parts = more := happend
          obtain ⟨before, said, after, rfl, hbefore, hsaid, hafter⟩ := ih hclauses
          refine ⟨{ junction, predicate } :: before, said, after, rfl, ?_, hsaid, hafter⟩
          exact List.forall_mem_cons.mpr ⟨vacuous_of_ofPredicate? predicate hquery, hbefore⟩
      | some query =>
          obtain ⟨rfl, rfl⟩ := List.cons.inj happend
          exact ⟨[], predicate, clauses, rfl, nofun, hquery, hclauses⟩

/-! ### Texts of what remains -/

/-- A text that is not blank. -/
def Shows (s : String) : Prop :=
  ∃ c ∈ s.toList, Text.isBlank c = false

theorem allBlank_eq_false_iff {s : String} : Text.allBlank s = false ↔ Shows s := by
  simp [Text.allBlank, Shows]

private theorem shows_of_head {s : String} {c : Char} {rest : List Char}
    (htext : s.toList = c :: rest) (hc : c = '@' ∨ c = '(' ∨ c = '-') : Shows s ∧ s ≠ "*" := by
  constructor
  · refine ⟨c, htext ▸ List.mem_cons_self, ?_⟩
    rcases hc with rfl | rfl | rfl <;> rfl
  · rintro rfl
    obtain ⟨rfl, -⟩ := List.cons.inj htext
    rcases hc with hc | hc | hc <;> exact absurd hc (by decide)

/-- The query of a predicate has a text that is not blank, and the text is a star only if the
predicate passes on a star. -/
theorem text_of_predicate {predicate : Predicate} {query : Query}
    (hquery : ofPredicate? schema config predicate = .ok (some query)) :
    Shows query.text ∧ (query.text = "*" → predicate = .raw "*") := by
  cases predicate with
  | test column asked =>
      rw [ofPredicate?, map_eq_ok_iff] at hquery
      obtain ⟨query, hquery, ⟨⟩⟩ := hquery
      obtain ⟨field, -, hclause⟩ := ofTest_isClauseOf hquery
      obtain ⟨c, rest, htext, hc⟩ := hclause.head_text
      obtain ⟨hshows, hstar⟩ := shows_of_head htext hc
      exact ⟨hshows, fun heq => absurd heq hstar⟩
  | raw text =>
      rw [ofPredicate?] at hquery
      split at hquery
      case isTrue => cases hquery
      case isFalse hblank =>
        obtain rfl := Option.some.inj (Except.ok.inj hquery)
        exact ⟨allBlank_eq_false_iff.mp (Bool.eq_false_iff.mpr hblank), congrArg Predicate.raw⟩
  | nested clauses =>
      rw [ofPredicate?] at hquery
      obtain ⟨parts, hparts, hquery⟩ := bind_pure_eq_ok_iff.mp hquery
      obtain ⟨inner, hinner, rfl⟩ := Option.map_eq_some_iff.mp hquery
      have htext : (Query.group inner).text.toList = '(' :: (inner.text ++ ")").toList := by
        simp [Query.text]
      obtain ⟨hshows, hstar⟩ := shows_of_head htext (.inr (.inl rfl))
      exact ⟨hshows, fun heq => absurd heq hstar⟩

/-- A list of queries holds the text of the first one, and what separates it from the next. -/
theorem text_list_subset (separator : String) (query : Query) (queries : List Query) :
    query.text.toList ⊆ (String.intercalate separator (texts (query :: queries))).toList ∧
      (queries ≠ [] → separator.toList ⊆
        (String.intercalate separator (texts (query :: queries))).toList) := by
  rw [text_list]
  refine ⟨List.subset_append_left _ _, fun hne => ?_⟩
  obtain ⟨next, queries, rfl⟩ := List.exists_cons_of_ne_nil hne
  rw [List.flatMap_cons]
  intro c hc
  simp [hc]

theorem alternative_subset (query : Query) (queries : List Query) :
    query.text.toList ⊆ (alternative (query :: queries)).text.toList := by
  cases queries with
  | nil => exact List.Subset.refl _
  | cons next queries =>
      intro c hc
      have hlist := (text_list_subset " " query (next :: queries)).1 hc
      simp only [alternative, Query.text, String.toList_append, List.mem_append]
      exact .inl (.inr hlist)

/-- The text of joined queries is that of the first one if it is alone. If it is not, the text holds
that of the first one and a blank. -/
theorem ofParts?_cons (part : Joined Query) (parts : List (Joined Query)) :
    ∃ query, ofParts? (part :: parts) = some query ∧
      part.predicate.text.toList ⊆ query.text.toList ∧
      (parts = [] → query.text = part.predicate.text) ∧
      (parts ≠ [] → ' ' ∈ query.text.toList) := by
  cases parts with
  | nil =>
      have htext : (Query.all [part.predicate]).text = part.predicate.text := by
        simp [Query.text, texts]
      exact ⟨_, rfl, htext ▸ List.Subset.refl _, fun _ => htext, fun hne => absurd rfl hne⟩
  | cons next parts =>
      have hnext : next :: parts ≠ [] := List.cons_ne_nil _ _
      have hflat := splitGroups_flatten (next :: parts)
      rw [ofParts?, groups]
      generalize splitGroups (next :: parts) = split at hflat ⊢
      obtain ⟨run, later⟩ := split
      cases later with
      | nil =>
          have hrun : run ≠ [] := by
            rintro rfl
            cases hflat
          obtain ⟨hfirst, hseparator⟩ := text_list_subset " " part.predicate run
          exact ⟨.all (part.predicate :: run), rfl, hfirst, (absurd · hnext),
            fun _ => hseparator hrun (List.mem_singleton_self ' ')⟩
      | cons group later =>
          have hfirst := alternative_subset part.predicate run
          obtain ⟨hgroup, hseparator⟩ := text_list_subset " | "
            (alternative (part.predicate :: run)) ((group :: later).map alternative)
          exact ⟨_, rfl, List.Subset.trans hfirst hgroup, (absurd · hnext),
            fun _ => hseparator (List.cons_ne_nil _ _) List.mem_cons_self⟩

/-- A list with something to say has a first clause that says something. The text of the list is the
text of this clause if nothing is said behind it, and else it holds this text and a blank. -/
theorem exists_first {clauses : List Clause} {query : Query}
    (hquery : ofClauses schema config clauses = .ok query) (hspeaks : ¬ AllVacuous clauses) :
    ∃ before junction predicate after first,
      clauses = before ++ { junction, predicate } :: after ∧ AllVacuous before ∧
        ofPredicate? schema config predicate = .ok (some first) ∧
        first.text.toList ⊆ query.text.toList ∧
        (AllVacuous after ∧ query.text = first.text ∨ ' ' ∈ query.text.toList) := by
  obtain ⟨parts, hparts, rfl⟩ := bind_pure_eq_ok_iff.mp hquery
  cases parts with
  | nil => exact absurd (vacuous_of_partsOf clauses hparts) hspeaks
  | cons part parts =>
      obtain ⟨before, predicate, after, rfl, hbefore, hpredicate, hafter⟩ := partsOf_eq_cons hparts
      obtain ⟨query, hjoined, hsubset, hone, hmore⟩ := ofParts?_cons part parts
      refine ⟨before, part.junction, predicate, after, part.predicate, rfl, hbefore, hpredicate, ?_⟩
      rw [hjoined]
      refine ⟨hsubset, ?_⟩
      by_cases hrest : parts = []
      · obtain rfl := hrest
        exact .inl ⟨vacuous_of_partsOf after hafter, hone rfl⟩
      · exact .inr (hmore hrest)

theorem ofClauses_shows {clauses : List Clause} {query : Query}
    (hquery : ofClauses schema config clauses = .ok query) (hspeaks : ¬ AllVacuous clauses) :
    Shows query.text := by
  obtain ⟨_, _, _, _, first, -, -, hfirst, hsubset, -⟩ := exists_first hquery hspeaks
  obtain ⟨c, hc, hblank⟩ := (text_of_predicate hfirst).1
  exact ⟨c, hsubset hc, hblank⟩

/-- A list passes on a star and says nothing else. -/
def PassesOnStar (clauses : List Clause) : Prop :=
  ∃ before junction after, AllVacuous before ∧ AllVacuous after ∧
    clauses = before ++ { junction, predicate := .raw "*" } :: after

theorem ofClauses_of_passesOnStar {clauses : List Clause} (hstar : PassesOnStar clauses) :
    ofClauses schema config clauses = .ok (.all [.raw "*"]) := by
  obtain ⟨before, junction, after, hbefore, hafter, rfl⟩ := hstar
  have hnone : ∀ clause ∈ before, ofPredicate? schema config clause.predicate = .ok none :=
    fun clause hclause => ofPredicate?_vacuous (hbefore clause hclause)
  rw [ofClauses, partsOf_append_vacuous hnone, partsOf, partOf?, ofPredicate?,
    if_neg (by decide), partsOf_allVacuous hafter]
  rfl

theorem text_eq_star_iff {clauses : List Clause} {query : Query}
    (hquery : ofClauses schema config clauses = .ok query) (hspeaks : ¬ AllVacuous clauses) :
    query.text = "*" ↔ PassesOnStar clauses := by
  constructor
  · intro htext
    obtain ⟨before, junction, predicate, after, first, rfl, hbefore, hfirst, -, hrest⟩ :=
      exists_first hquery hspeaks
    rw [htext] at hrest
    rcases hrest with ⟨hafter, hstar⟩ | hblank
    · obtain rfl := (text_of_predicate hfirst).2 hstar.symm
      exact ⟨before, junction, after, hbefore, hafter, rfl⟩
    · exact absurd hblank (by decide)
  · intro hstar
    rw [ofClauses_of_passesOnStar hstar] at hquery
    obtain rfl := Except.ok.inj hquery
    rfl

/-- Clauses that say nothing are neutral. Put in anywhere, they change neither the text of a list
nor its error; a list of nothing else has the text that asks for every document; and any other list
that compiles has a text that is not blank, and that is a star exactly if the one clause that says
something passes on a star. -/
theorem vacuous_clauses_neutral (schema : Schema) (config : Config) (clauses : List Clause) :
    (∀ padded, ClausesPadded clauses padded →
      (ofClauses schema config padded).map text = (ofClauses schema config clauses).map text) ∧
    (AllVacuous clauses → (ofClauses schema config clauses).map text = .ok "*") ∧
    (¬ AllVacuous clauses → ∀ written, (ofClauses schema config clauses).map text = .ok written →
      Text.allBlank written = false ∧ (written = "*" ↔ PassesOnStar clauses)) := by
  refine ⟨fun padded hpadded => ?_, fun hvacuous => ?_, fun hspeaks written hwritten => ?_⟩
  · rw [ofClauses, ofClauses, partsOf_padded hpadded]
  · rw [ofClauses, partsOf_allVacuous hvacuous]
    rfl
  · obtain ⟨query, hquery, rfl⟩ := map_eq_ok_iff.mp hwritten
    exact ⟨allBlank_eq_false_iff.mpr (ofClauses_shows hquery hspeaks),
      text_eq_star_iff hquery hspeaks⟩

/-- A film by its title. -/
def film : List Clause :=
  [{ junction := .or, predicate := .nested [
    { junction := .or, predicate := .test "title" (.compare .eq (.text "Ran")) }] }]

/-- A film by its title, with blanks and empty parentheses around it and inside. -/
def paddedFilm : List Clause :=
  [{ junction := .and, predicate := .raw " \t" },
    { junction := .or, predicate := .nested [
      { junction := .and, predicate := .nested [] },
      { junction := .or, predicate := .test "title" (.compare .eq (.text "Ran")) }] },
    { junction := .and, predicate := .nested [{ junction := .or, predicate := .raw "" }] }]

/-- The padded clauses have the text of the others, which is not blank and no star; what was put in
around them asks for every document when it is alone. -/
theorem paddedFilm_text :
    (ofClauses films {} paddedFilm).map text = .ok "(@title:\"Ran\")" ∧
      Text.allBlank "(@title:\"Ran\")" = false ∧ ¬ PassesOnStar film ∧
      (ofClauses films {} [{ junction := .and, predicate := .raw " \t" }]).map text = .ok "*" := by
  have hempty : (Predicate.nested []).Vacuous := .nested nofun
  have hblank : (Predicate.raw " \t").Vacuous := .raw rfl
  have hnested : (Predicate.nested [{ junction := .or, predicate := .raw "" }]).Vacuous :=
    .nested (List.forall_mem_singleton.mpr (.raw rfl))
  have hpadded : ClausesPadded film paddedFilm :=
    .insert hblank
      (.keep .or (.nested (.insert hempty (.keep .or (.same _) .nil))) (.insert hnested .nil))
  have htext : (ofClauses films {} film).map text = .ok "(@title:\"Ran\")" := rfl
  have hspeaks : ¬ AllVacuous film := by
    intro hvacuous
    rw [(vacuous_clauses_neutral films {} film).2.1 hvacuous] at htext
    exact absurd (Except.ok.inj htext) (by decide)
  obtain ⟨hshows, hstar⟩ := (vacuous_clauses_neutral films {} film).2.2 hspeaks _ htext
  refine ⟨((vacuous_clauses_neutral films {} film).1 _ hpadded).trans htext, hshows, ?_, ?_⟩
  · exact fun hpasses => absurd (hstar.mpr hpasses) (by decide)
  · exact (vacuous_clauses_neutral films {} _).2.1 (List.forall_mem_singleton.mpr hblank)

end Query

end FullText
