import FullText.Proofs.Query.Meaning

/-!
The texts of a user inside their clause. A clause that compares a field with texts encloses them in
braces, in quotes or in a list of quotes, or puts a star behind them. Whatever the texts are, the
first unescaped end of the enclosure is the end of the clause, the separators between the texts are
the only unescaped ones, and taking the escapes out gives the texts back.
-/

namespace FullText

/-- How a clause encloses the texts of a user. -/
inductive Enclosure where
  /-- A set of tags in braces. -/
  | braces
  /-- One quoted phrase. -/
  | quotes
  /-- Quoted phrases in parentheses. -/
  | list
  /-- The beginning of a term, with a star behind it. -/
  | star

/-- The escaped texts in a payload. The payload has to end where its enclosure does, which is at the
first unescaped delimiter. -/
def Enclosure.parts? : Enclosure → List Char → Option (List (List Char))
  | .braces, '\x7b' :: ' ' :: cs =>
    match readTags cs with
    | some (tags, []) => some tags
    | _ => none
  | .quotes, '"' :: cs =>
    match splitUnescaped (· == '"') cs with
    | (phrase, ['"']) => some [phrase]
    | _ => none
  | .list, '(' :: '"' :: cs =>
    match readPhrases cs with
    | some (phrases, []) => some phrases
    | _ => none
  | .star, cs =>
    match splitUnescaped (· == '*') cs with
    | (stem, ['*']) => some [stem]
    | _ => none
  | _, _ => none

/-- The enclosure of the text, or of the several texts, that a field is compared with. -/
def FieldType.enclosure? (several : Bool) : FieldType → Option Enclosure
  | .text .. => some (if several then .list else .quotes)
  | .tag .. => some .braces
  | .numeric .. | .geo .. | .geoShape .. | .vector .. => none

namespace Test

def equality (negated : Bool) (v : Value) : Test :=
  .compare (if negated then .ne else .eq) v

def membership (negated : Bool) (values : List Value) : Test :=
  if negated then .notIn values else .isIn values

/-- A test that compares a field with texts: whether it is negated, how its clause encloses the
texts, and the texts. They are the texts of the values of the test in their order; of a pattern, its
wildcards are cut off. -/
inductive Compares (type : FieldType) : Test → Bool → Enclosure → List String → Prop
  | scalar (negated : Bool) {v : Value} {s : String} {enclosure : Enclosure}
      (hs : v.render? = some s) (henclosure : type.enclosure? false = some enclosure) :
      Compares type (equality negated v) negated enclosure [s]
  | values (negated : Bool) {values : List Value} {texts : List String} {enclosure : Enclosure}
      (hne : values ≠ []) (htexts : List.Forall₂ (fun v s => v.render? = some s) values texts)
      (henclosure : type.enclosure? true = some enclosure) :
      Compares type (membership negated values) negated enclosure texts
  | listed (negated : Bool) {v : Value} {values : List Value} {texts : List String}
      {enclosure : Enclosure} (hlist : v.resolved = .list values) (hne : values ≠ [])
      (htexts : List.Forall₂ (fun v s => v.render? = some s) values texts)
      (henclosure : type.enclosure? true = some enclosure) :
      Compares type (equality negated v) negated enclosure texts
  | pattern {v : Value} {s stem : String} (hs : v.render? = some s)
      (hstem : stem = Text.strip (fun c => c == '%' || c == '*') s) (hne : stem ≠ "")
      (htype : type.kind = .text) :
      Compares type (.compare .like v) false .star [stem]

end Test

/-! ### Enclosed texts -/

def Condition.Encloses (condition : Condition) (enclosure : Enclosure) (texts : List String) :
    Prop :=
  ∃ parts, enclosure.parts? condition.text.toList = some parts ∧ parts.map unescaped = texts

private theorem map_unescaped {special : Char → Bool} (hback : special '\\' = true)
    (texts : List String) :
    (texts.map fun s => escapeWhere special s.toList).map unescaped = texts := by
  rw [List.map_map]
  conv_rhs => rw [← List.map_id texts]
  exact List.map_congr_left fun s _ => unescaped_escapeWhere hback s

theorem phrase_encloses (s : String) : (Condition.phrase s).Encloses .quotes [s] := by
  refine ⟨[escapeWhere isPhraseSpecial s.toList], ?_, map_unescaped isPhraseSpecial_backslash [s]⟩
  rw [Condition.text, phraseText_toList]
  simp only [Enclosure.parts?, splitUnescaped_phrase]

theorem anyPhrase_encloses (phrases : List String) (hne : phrases ≠ []) :
    (Condition.anyPhrase phrases).Encloses .list phrases := by
  refine ⟨_, ?_, map_unescaped isPhraseSpecial_backslash phrases⟩
  obtain ⟨phrase, phrases, rfl⟩ := List.exists_cons_of_ne_nil hne
  obtain ⟨cs, htext, hread⟩ := anyPhrase_toList phrase phrases []
  rw [List.append_nil] at htext
  rw [htext]
  simp only [Enclosure.parts?, hread]

theorem anyTag_encloses (tags : List String) (hne : tags ≠ []) :
    (Condition.anyTag tags).Encloses .braces tags := by
  refine ⟨_, ?_, map_unescaped isSpecial_backslash tags⟩
  have htext := anyTag_toList tags []
  rw [List.append_nil] at htext
  rw [htext]
  simp only [Enclosure.parts?, readTags_joined tags hne]

theorem startingWith_encloses (stem : String) :
    (Condition.startingWith stem).Encloses .star [stem] := by
  refine ⟨[escapeWhere isSpecial stem.toList], ?_, map_unescaped isSpecial_backslash [stem]⟩
  have hstar : ∀ c, (c == '*') = true → isSpecial c = true := by
    intro c hc
    rw [eq_of_beq hc]
    decide
  have hsplit : splitUnescaped (· == '*') (escapeWhere isSpecial stem.toList ++ ['*']) =
      (escapeWhere isSpecial stem.toList, ['*']) := by
    rw [splitUnescaped_escapeWhere isSpecial_backslash hstar,
      splitUnescaped_stop _ _ _ (by decide) (by decide)]
    simp only [List.append_nil]
  have htext : (Condition.startingWith stem).text.toList =
      escapeWhere isSpecial stem.toList ++ ['*'] := by
    rw [Condition.text, String.toList_append, escapedTerm_toList]
    rfl
  rw [htext]
  simp only [Enclosure.parts?, hsplit]

/-! ### Clauses -/

/-- A query that is one clause, which encloses texts behind the name of its field, with a minus sign
in front if it is negated. -/
def Query.Confines (query : Query) (name : String) (negated : Bool) (enclosure : Enclosure)
    (texts : List String) : Prop :=
  ∃ clause payload parts,
    query.text.toList = (if negated then ['-'] else []) ++ '@' :: clause ∧
    readName clause = some (name, payload) ∧
    enclosure.parts? payload = some parts ∧ parts.map unescaped = texts

private def signed (negated : Bool) (query : Query) : Query :=
  if negated then .not query else query

private theorem confines_signed {name : String} {condition : Condition} {enclosure : Enclosure}
    {texts : List String} (hname : Plain name) (negated : Bool)
    (hcondition : condition.Encloses enclosure texts) :
    (signed negated (.field name condition)).Confines name negated enclosure texts := by
  obtain ⟨parts, hparts, htexts⟩ := hcondition
  refine ⟨name.toList ++ ':' :: condition.text.toList, condition.text.toList, parts, ?_,
    readName_plain name hname _, hparts, htexts⟩
  cases negated with
  | false => simp [signed, Query.text]
  | true => simp [signed, Query.text]

section Compiled

variable {schema : Schema} {config : Config} {column : String} {field : Field}

private theorem operands_texts (column : String) {values : List Value} {texts : List String}
    (hne : values ≠ []) (htexts : List.Forall₂ (fun v s => v.render? = some s) values texts) :
    operands (scalarOperand column) column values = .ok texts ∧ texts ≠ [] := by
  constructor
  · exact operands_eq_ok_iff.mpr ⟨hne, htexts.imp fun _ _ h => scalarOperand_eq_ok_iff.mpr h⟩
  · rintro rfl
    exact hne (List.forall₂_nil_right_iff.mp htexts)

private theorem ofFieldTest?_membership {values : List Value} {texts : List String}
    {enclosure : Enclosure} (hname : Plain field.name) (negated : Bool) (hne : values ≠ [])
    (htexts : List.Forall₂ (fun v s => v.render? = some s) values texts)
    (henclosure : field.type.enclosure? true = some enclosure) :
    ∃ query, Query.ofFieldTest? config column field (.membership negated values) =
        some (.ok query) ∧
      query.Confines field.name negated enclosure texts := by
  obtain ⟨hoperands, hsome⟩ := operands_texts column hne htexts
  obtain ⟨name, type⟩ := field
  cases type with
  | text =>
      obtain rfl := Option.some.inj henclosure
      refine ⟨_, ?_, confines_signed hname negated (anyPhrase_encloses texts hsome)⟩
      cases negated <;>
        simp [Query.ofFieldTest?, Query.ofTextTest?, Test.membership, hoperands, signed]
  | tag =>
      obtain rfl := Option.some.inj henclosure
      refine ⟨_, ?_, confines_signed hname negated (anyTag_encloses texts hsome)⟩
      cases negated <;>
        simp [Query.ofFieldTest?, Query.ofTagTest?, Test.membership, hoperands, signed]
  | _ => cases henclosure

private theorem ofFieldTest?_equality {v : Value} {s : String} {enclosure : Enclosure}
    (hname : Plain field.name) (negated : Bool) (hs : v.render? = some s)
    (henclosure : field.type.enclosure? false = some enclosure) :
    ∃ query, Query.ofFieldTest? config column field (.equality negated v) = some (.ok query) ∧
      query.Confines field.name negated enclosure [s] := by
  have hoperand : scalarOperand column v = .ok s := scalarOperand_eq_ok_iff.mpr hs
  obtain ⟨name, type⟩ := field
  cases type with
  | text =>
      obtain rfl := Option.some.inj henclosure
      refine ⟨_, ?_, confines_signed hname negated (phrase_encloses s)⟩
      cases negated <;>
        simp [Query.ofFieldTest?, Query.ofTextTest?, Test.equality, hoperand, signed]
  | tag =>
      obtain rfl := Option.some.inj henclosure
      refine ⟨_, ?_, confines_signed hname negated (anyTag_encloses [s] (List.cons_ne_nil _ _))⟩
      cases negated <;>
        simp [Query.ofFieldTest?, Query.ofTagTest?, Test.equality, hoperand, signed]
  | _ => cases henclosure

/-- A pattern compiles to a clause that encloses what is left of it without its wildcards. -/
private theorem ofFieldTest?_like {v : Value} {s stem : String} (hname : Plain field.name)
    (hs : v.render? = some s) (hstem : stem = Text.strip (fun c => c == '%' || c == '*') s)
    (hne : stem ≠ "") (htype : field.type.kind = .text) :
    ∃ query, Query.ofFieldTest? config column field (.compare .like v) = some (.ok query) ∧
      query.Confines field.name false .star [stem] := by
  have hoperand : scalarOperand column v = .ok s := scalarOperand_eq_ok_iff.mpr hs
  obtain ⟨name, type⟩ := field
  cases type with
  | text =>
      subst hstem
      refine ⟨_, congrArg some (bind_eq_ok_iff.mpr ⟨s, hoperand, ?_⟩),
        confines_signed hname false (startingWith_encloses _)⟩
      dsimp only
      rw [if_neg hne]
      rfl
  | _ => cases htype

/-- The texts of a user never leave their clause. A test that compares a field with texts compiles,
and its clause encloses exactly these texts. -/
theorem compared_texts_confined (hnames : ∀ field ∈ schema.fields, Plain field.name)
    (hfield : schema.resolve? column = some field) {asked : Test} {negated : Bool}
    {enclosure : Enclosure} {texts : List String}
    (hasked : asked.Compares field.type negated enclosure texts) :
    ∃ query, Query.ofTest schema config column asked = .ok query ∧
      query.Confines field.name negated enclosure texts := by
  have hname := hnames field (List.mem_of_find?_eq_some hfield)
  cases hasked with
  | scalar _ hs henclosure =>
      obtain ⟨query, hquery, hconfines⟩ := ofFieldTest?_equality hname negated hs henclosure
      exact ⟨query, Query.ofTest_eq_ok hfield
        (Test.written_scalar (Value.scalar_of_render? hs)) hquery, hconfines⟩
  | values _ hne htexts henclosure =>
      obtain ⟨query, hquery, hconfines⟩ :=
        ofFieldTest?_membership hname negated hne htexts henclosure
      refine ⟨query, Query.ofTest_eq_ok hfield ?_ hquery, hconfines⟩
      cases negated <;> rfl
  | listed _ hlist hne htexts henclosure =>
      obtain ⟨query, hquery, hconfines⟩ :=
        ofFieldTest?_membership hname negated hne htexts henclosure
      refine ⟨query, Query.ofTest_eq_ok hfield ?_ hquery, hconfines⟩
      cases negated <;> simp [Test.written, Test.equality, Test.membership, hlist]
  | pattern hs hstem hne htype =>
      obtain ⟨query, hquery, hconfines⟩ := ofFieldTest?_like hname hs hstem hne htype
      exact ⟨query, Query.ofTest_eq_ok hfield
        (Test.written_scalar (Value.scalar_of_render? hs)) hquery, hconfines⟩

end Compiled

/-- Tags that end in a backslash, are empty or hold a brace and a bar. -/
theorem odd_tags_confined :
    ∃ query, Query.ofTest { name := "shop", fields := [.tag "color"] } {} "color"
        (.membership true [.text "a\\", .text "", .text "x \x7d | y"]) = .ok query ∧
      query.Confines "color" true .braces ["a\\", "", "x \x7d | y"] := by
  have hfield : ({ name := "shop", fields := [.tag "color"] } : Schema).resolve? "color" =
      some (.tag "color") := by
    rfl
  have htexts : List.Forall₂ (fun (v : Value) s => v.render? = some s)
      [.text "a\\", .text "", .text "x \x7d | y"] ["a\\", "", "x \x7d | y"] :=
    .cons rfl (.cons rfl (.cons rfl .nil))
  exact compared_texts_confined (by decide) hfield
    (.values true (List.cons_ne_nil _ _) htexts rfl)

end FullText
