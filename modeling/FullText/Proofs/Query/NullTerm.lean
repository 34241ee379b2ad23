import FullText.Proofs.Query.Operands
import FullText.Proofs.Query.ReadBack

/-!
The clause for null. Null is stored as the sentinel, and the clause that looks for it carries the
sentinel as it is, where every other text is escaped. So the clause finds what was stored exactly
when nothing in the sentinel has a meaning in queries; a configuration is accepted without that.
-/

namespace FullText

/-! ### Texts that spell a term -/

/-- A text that spells one term: nothing in it that has a meaning in queries stands unescaped, and
without its escapes it is the term. -/
def SpellsTerm (cs : List Char) (s : String) : Prop :=
  splitUnescaped isSpecial cs = (cs, []) ∧ unescaped cs = s

theorem spellsTerm_escapedTerm (s : String) : SpellsTerm (escapedTerm s).toList s := by
  have hsplit := splitUnescaped_term s [] rfl
  rw [List.append_nil] at hsplit
  rw [SpellsTerm, escapedTerm_toList]
  exact ⟨hsplit, unescaped_escapeWhere isSpecial_backslash s⟩

theorem unescape_length_le (cs : List Char) : (unescape cs).length ≤ cs.length := by
  fun_induction unescape cs with
  | case1 => exact Nat.le_refl _
  | case2 c cs ih =>
      simp only [List.length_cons]
      omega
  | case3 c cs _ ih =>
      simp only [List.length_cons]
      omega

/-- Where nothing stands unescaped and there is no escape to take out, nothing has a meaning. -/
private theorem not_special_of_spells {cs : List Char}
    (hsplit : splitUnescaped isSpecial cs = (cs, [])) (hsame : unescape cs = cs) :
    ∀ c ∈ cs, isSpecial c = false := by
  induction cs with
  | nil => simp
  | cons c cs ih =>
      by_cases hback : c = '\\'
      · subst hback
        cases cs with
        | nil => exact absurd hsplit (by decide)
        | cons d ds =>
            -- Taking the backslash out has made the text shorter.
            have hshort := unescape_length_le ds
            have hlength := congrArg List.length hsame
            rw [unescape] at hlength
            simp only [List.length_cons] at hlength
            omega
      · rw [splitUnescaped_cons _ _ _ hback] at hsplit
        rw [unescape_cons _ _ hback] at hsame
        cases hspecial : isSpecial c with
        | true =>
            rw [hspecial] at hsplit
            cases hsplit
        | false =>
            rw [hspecial] at hsplit
            obtain ⟨hfront, hrest⟩ := Prod.mk.inj hsplit
            have htail : splitUnescaped isSpecial cs = (cs, []) :=
              Prod.ext (List.cons.inj hfront).2 hrest
            exact List.forall_mem_cons.mpr ⟨hspecial, ih htail (List.cons.inj hsame).2⟩

/-- A text spells itself exactly when nothing in it has a meaning in queries. -/
theorem spellsTerm_self_iff (s : String) : SpellsTerm s.toList s ↔ Plain s := by
  constructor
  · rintro ⟨hsplit, hsame⟩
    refine not_special_of_spells hsplit ?_
    rw [← String.toList_inj, unescaped, String.toList_ofList] at hsame
    exact hsame
  · intro hplain
    have hspells := spellsTerm_escapedTerm s
    rwa [escapedTerm_toList, escapeWhere_plain s hplain] at hspells

theorem escapedTerm_eq_self_iff (s : String) : escapedTerm s = s ↔ Plain s := by
  constructor
  · intro hsame
    have hspells := spellsTerm_escapedTerm s
    rw [hsame] at hspells
    exact (spellsTerm_self_iff s).mp hspells
  · intro hplain
    rw [← String.toList_inj, escapedTerm_toList, escapeWhere_plain s hplain]

/-! ### Clauses around a term -/

/-- What stands around the one term that a clause on a field of the type carries. -/
def FieldType.aroundTerm? : FieldType → Option (String × String)
  | .text .. => some ("", "")
  | .tag .. => some ("\x7b ", " \x7d")
  | .numeric .. | .geo .. | .geoShape .. | .vector .. => none

/-- A query that is one clause on a field, with a minus sign in front if it is negated, and carries
exactly one term. -/
def Query.CarriesTerm (query : Query) (field : Field) (negated : Bool) (s : String) : Prop :=
  ∃ before after term, field.type.aroundTerm? = some (before, after) ∧
    query.text =
      (if negated then "-" else "") ++ "@" ++ field.name ++ ":" ++ before ++ term ++ after ∧
    SpellsTerm term.toList s

/-- A field is null, or it is not. -/
def Test.nullity (negated : Bool) : Test :=
  if negated then .notNull else .isNull

section Compiled

variable {schema : Schema} {column : String} {field : Field}

/-- The clause for null carries the sentinel as it is. -/
private theorem ofTest_nullity (config : Config) (hfield : schema.resolve? column = some field)
    (hkind : field.kind = .text ∨ field.kind = .tag) (negated : Bool) :
    ∃ query before after, Query.ofTest schema config column (.nullity negated) = .ok query ∧
      field.type.aroundTerm? = some (before, after) ∧
      query.text = (if negated then "-" else "") ++ "@" ++ field.name ++ ":" ++ before ++
        config.nullSentinel ++ after := by
  have hwritten : (Test.nullity negated).written column = .ok (.nullity negated) := by
    cases negated <;> rfl
  obtain ⟨name, type⟩ := field
  cases type with
  | text =>
      let clause : Query := .field name (.nullTerm config.nullSentinel)
      refine ⟨if negated then .not clause else clause, "", "",
        Query.ofTest_eq_ok hfield hwritten ?_, rfl, ?_⟩
      · cases negated <;> rfl
      · cases negated <;>
          simp only [clause, Query.text, Condition.text, String.append_assoc, String.empty_append,
            String.append_empty, if_true, Bool.false_eq_true, if_false]
  | tag =>
      let clause : Query := .field name (.nullTag config.nullSentinel)
      refine ⟨if negated then .not clause else clause, "\x7b ", " \x7d",
        Query.ofTest_eq_ok hfield hwritten ?_, rfl, ?_⟩
      · cases negated <;> rfl
      · cases negated <;>
          simp only [clause, Query.text, Condition.text, String.append_assoc, String.empty_append,
            if_true, Bool.false_eq_true, if_false]
  | _ => rcases hkind with h | h <;> cases h

/-- What is carried between the two ends of a clause is determined by the text of the clause. -/
private theorem carriesTerm_iff {query : Query} {negated : Bool} {before after sentinel s : String}
    (haround : field.type.aroundTerm? = some (before, after))
    (htext : query.text = (if negated then "-" else "") ++ "@" ++ field.name ++ ":" ++ before ++
      sentinel ++ after) :
    query.CarriesTerm field negated s ↔ SpellsTerm sentinel.toList s := by
  constructor
  · rintro ⟨before', after', term, haround', htext', hspells⟩
    obtain ⟨rfl, rfl⟩ := Prod.mk.inj (Option.some.inj (haround.symm.trans haround'))
    have hsame := htext.symm.trans htext'
    rw [String.append_left_inj, String.append_right_inj] at hsame
    rwa [hsame]
  · intro hspells
    exact ⟨before, after, sentinel, haround, htext, hspells⟩

/-- The clauses of a tag field for null and for the text of the sentinel are the same exactly when
escaping the sentinel changes nothing. -/
private theorem nullTag_text_iff (name sentinel : String) :
    (Query.field name (.nullTag sentinel)).text = (Query.field name (.anyTag [sentinel])).text ↔
      Plain sentinel := by
  have hone : String.intercalate " | " ([sentinel].map escapedTerm) = escapedTerm sentinel := by
    simp
  simp only [Query.text, Condition.text, hone, String.append_right_inj, String.append_left_inj]
  rw [eq_comm, escapedTerm_eq_self_iff]

/-- The clause for null finds what is stored for null exactly when nothing in the sentinel has a
meaning in queries: then it carries the sentinel as its one term, and on a tag field it is the
clause for the text of the sentinel. -/
theorem null_clause_iff (config : Config) (hfield : schema.resolve? column = some field)
    (hkind : field.kind = .text ∨ field.kind = .tag) :
    (∀ negated, ∃ query, Query.ofTest schema config column (.nullity negated) = .ok query ∧
      (query.CarriesTerm field negated (Value.null.wireText config.nullSentinel) ↔
        Plain config.nullSentinel)) ∧
    (field.kind = .tag → ∃ null stored, Query.ofTest schema config column .isNull = .ok null ∧
      Query.ofTest schema config column
          (.compare .eq (.text (Value.null.wireText config.nullSentinel))) = .ok stored ∧
      (null.text = stored.text ↔ Plain config.nullSentinel)) := by
  constructor
  · intro negated
    obtain ⟨query, before, after, hquery, haround, htext⟩ :=
      ofTest_nullity config hfield hkind negated
    refine ⟨query, hquery, ?_⟩
    rw [carriesTerm_iff haround htext]
    exact spellsTerm_self_iff config.nullSentinel
  · intro htag
    obtain ⟨name, type⟩ := field
    cases type with
    | tag =>
        exact ⟨_, _, Query.ofTest_eq_ok hfield rfl rfl, Query.ofTest_eq_ok hfield rfl rfl,
          nullTag_text_iff name config.nullSentinel⟩
    | _ => cases htag

end Compiled

/-- An index of states, which are tags. -/
def states : Schema :=
  { name := "states", fields := [.tag "state"] }

/-- The usual sentinel has no meaning in queries. -/
theorem usual_null_found :
    (∃ query, Query.ofTest states {} "state" .notNull = .ok query ∧
      query.CarriesTerm (.tag "state") true "_null_") ∧
    ∃ null stored, Query.ofTest states {} "state" .isNull = .ok null ∧
      Query.ofTest states {} "state" (.compare .eq (.text "_null_")) = .ok stored ∧
      null.text = stored.text := by
  have hplain : Plain ({} : Config).nullSentinel := by decide
  have hfield : states.resolve? "state" = some (.tag "state") := rfl
  obtain ⟨hcarries, htag⟩ := null_clause_iff {} hfield (Or.inr rfl)
  obtain ⟨query, hquery, hterm⟩ := hcarries true
  obtain ⟨null, stored, hnull, hstored, hsame⟩ := htag rfl
  exact ⟨⟨query, hquery, hterm.mpr hplain⟩, null, stored, hnull, hstored, hsame.mpr hplain⟩

/-- A sentinel with a slash is accepted, but its slash stands unescaped in the clause for null, where
the clause for the stored text escapes it. -/
theorem slashed_null_not_carried :
    ({ nullSentinel := "N/A" } : Config).validate = .ok () ∧
    ∃ null stored, Query.ofTest states { nullSentinel := "N/A" } "state" .isNull = .ok null ∧
      Query.ofTest states { nullSentinel := "N/A" } "state" (.compare .eq (.text "N/A")) =
        .ok stored ∧
      null.text = "@state:\x7b N/A \x7d" ∧ stored.text = "@state:\x7b N\\/A \x7d" ∧
      ¬ null.CarriesTerm (.tag "state") false "N/A" := by
  have haround : (Field.tag "state").type.aroundTerm? = some ("\x7b ", " \x7d") := rfl
  refine ⟨by rfl, _, _, rfl, rfl, by rfl, by rfl, ?_⟩
  have htext : (Query.field "state" (.nullTag "N/A")).text =
      (if false then "-" else "") ++ "@" ++ "state" ++ ":" ++ "\x7b " ++ "N/A" ++ " \x7d" := by
    simp only [Query.text, Condition.text, String.append_assoc, String.empty_append,
      Bool.false_eq_true, if_false]
  intro hcarries
  have hspells := (carriesTerm_iff haround htext).mp hcarries
  exact absurd ((spellsTerm_self_iff "N/A").mp hspells) (by decide)

end FullText
