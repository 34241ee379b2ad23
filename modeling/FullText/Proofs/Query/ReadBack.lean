import FullText.Proofs.Decimal.Characters
import FullText.Proofs.Query.Reading

/-!
The text of a query read back. A query that is built up from field clauses, minus signs and
parenthesised lists is read as a formula with the same truth value. The induction follows the
query: reading the text of a unit takes the reader from any state that expects a unit to the
state with one more unit, whatever text follows.
-/

namespace FullText

/-! ### What queries mean -/

/-- What a condition asks: one of its leaves has to hold. -/
def Condition.leaves : Condition → List Leaf
  | .phrase s => [.phrase s]
  | .anyPhrase phrases => phrases.map .phrase
  | .startingWith stem => [.stem stem]
  | .anyTag tags => tags.map .tag
  | .nullTerm sentinel => [.term sentinel]
  | .nullTag sentinel => [.tag sentinel]
  | .range low high => [.range (low.text ++ " " ++ high.text)]
  | .circle lon lat radius unit =>
    [.range (Decimal.text lon ++ " " ++ Decimal.text lat ++ " " ++ Decimal.text radius ++ " " ++
      unit.keyword)]

namespace Query

mutual

/-- The truth of a query. Text that is passed on as it is has no meaning here. -/
def Holds (truth : String → Leaf → Prop) : Query → Prop
  | .everything => True
  | .raw _ => False
  | .field name condition => ∃ leaf ∈ condition.leaves, truth name leaf
  | .not query => ¬ query.Holds truth
  | .group query => query.Holds truth
  | .all queries => AllHold truth queries
  | .any queries => AnyHolds truth queries

def AllHold (truth : String → Leaf → Prop) : List Query → Prop
  | [] => True
  | query :: queries => query.Holds truth ∧ AllHold truth queries

def AnyHolds (truth : String → Leaf → Prop) : List Query → Prop
  | [] => False
  | query :: queries => query.Holds truth ∨ AnyHolds truth queries

end

theorem allHold_iff (truth : String → Leaf → Prop) (queries : List Query) :
    AllHold truth queries ↔ ∀ query ∈ queries, query.Holds truth := by
  induction queries with
  | nil => simp [AllHold]
  | cons query queries ih => simp [AllHold, ih]

theorem anyHolds_iff (truth : String → Leaf → Prop) (queries : List Query) :
    AnyHolds truth queries ↔ ∃ query ∈ queries, query.Holds truth := by
  induction queries with
  | nil => simp [AnyHolds]
  | cons query queries ih => simp [AnyHolds, ih]

theorem texts_eq_map (queries : List Query) : texts queries = queries.map text := by
  induction queries with
  | nil => rfl
  | cons query queries ih => rw [texts, ih, List.map_cons]

end Query

/-- A condition whose text can be told apart from what follows it. The terms that stand for null are
written as they are, and a list has to have an item. -/
def Condition.Readable : Condition → Prop
  | .anyPhrase phrases => phrases ≠ []
  | .anyTag tags => tags ≠ []
  | .nullTerm sentinel => Plain sentinel
  | .nullTag sentinel => Plain sentinel
  | _ => True

/-- Queries that stand as one unit in a text. -/
inductive Query.IsUnit : Query → Prop
  | field {name : String} {condition : Condition} (hname : Plain name)
      (hcondition : condition.Readable) : IsUnit (.field name condition)
  | not {query : Query} (hquery : IsUnit query) : IsUnit (.not query)
  | all {queries : List Query} (hne : queries ≠ []) (hqueries : ∀ query ∈ queries, IsUnit query) :
      IsUnit (.group (.all queries))
  | any {queries : List Query} (hne : queries ≠ []) (hqueries : ∀ query ∈ queries, IsUnit query) :
      IsUnit (.group (.any queries))

/-! ### Field clauses -/

/-- What may follow a unit: nothing, a space or a closing parenthesis. -/
def EndsUnit (cs : List Char) : Prop :=
  cs = [] ∨ ∃ rest, cs = ' ' :: rest ∨ cs = ')' :: rest

theorem unescaped_escapeWhere {special : Char → Bool} (hback : special '\\' = true) (s : String) :
    unescaped (escapeWhere special s.toList) = s := by
  rw [unescaped, unescape_escapeWhere hback, String.ofList_toList]

private theorem isPhraseSpecial_of_quote (c : Char) (hc : (c == '"') = true) :
    isPhraseSpecial c = true := by
  rw [isPhraseSpecial, hc]
  rfl

private theorem isSpecial_of_brace (c : Char) (hc : (c == '\x7d') = true) :
    isSpecial c = true := by
  rw [eq_of_beq hc]
  decide

/-- A phrase ends at its closing quote. -/
theorem splitUnescaped_phrase (s : String) (rest : List Char) :
    splitUnescaped (· == '"') (escapeWhere isPhraseSpecial s.toList ++ '"' :: rest) =
      (escapeWhere isPhraseSpecial s.toList, '"' :: rest) := by
  rw [splitUnescaped_escapeWhere isPhraseSpecial_backslash isPhraseSpecial_of_quote,
    splitUnescaped_stop _ _ _ (by decide) (by decide)]
  simp only [List.append_nil]

/-- A term that is followed by a special character ends there. -/
theorem splitUnescaped_term (s : String) (rest : List Char)
    (hrest : splitUnescaped isSpecial rest = ([], rest)) :
    splitUnescaped isSpecial (escapeWhere isSpecial s.toList ++ rest) =
      (escapeWhere isSpecial s.toList, rest) := by
  rw [splitUnescaped_escapeWhere isSpecial_backslash fun _ h => h, hrest]
  simp only [List.append_nil]

/-- Nothing has to be escaped in a plain text. -/
theorem escapeWhere_plain (s : String) (hs : Plain s) :
    escapeWhere isSpecial s.toList = s.toList := by
  unfold Plain at hs
  generalize s.toList = cs at hs
  induction cs with
  | nil => rfl
  | cons c cs ih =>
      rw [escapeWhere, hs c List.mem_cons_self,
        ih fun d hd => hs d (List.mem_cons_of_mem c hd)]
      rfl

theorem EndsUnit.splitUnescaped {cs : List Char} (hcs : EndsUnit cs) :
    splitUnescaped isSpecial cs = ([], cs) := by
  rcases hcs with rfl | ⟨rest, rfl | rfl⟩
  · rfl
  · exact splitUnescaped_stop _ _ _ (by decide) (by decide)
  · exact splitUnescaped_stop _ _ _ (by decide) (by decide)

theorem EndsUnit.head_not_open {cs : List Char} (hcs : EndsUnit cs) :
    ∀ c tail, cs = c :: tail → c ∉ ['"', '[', '\x7b', '('] := by
  intro c tail h
  rcases hcs with rfl | ⟨rest, rfl | rfl⟩
  · cases h
  · rw [← (List.cons.inj h).1]
    decide
  · rw [← (List.cons.inj h).1]
    decide

theorem readName_plain (name : String) (hname : Plain name) (rest : List Char) :
    readName (name.toList ++ ':' :: rest) = some (name, rest) := by
  have hcolon : splitUnescaped isSpecial (':' :: rest) = ([], ':' :: rest) :=
    splitUnescaped_stop _ _ _ (by decide) (by decide)
  have hsplit := splitUnescaped_term name (':' :: rest) hcolon
  rw [escapeWhere_plain name hname] at hsplit
  simp only [readName, hsplit, String.ofList_toList]

private def quotedChars (s : String) : List Char :=
  '"' :: (escapeWhere isPhraseSpecial s.toList ++ ['"'])

private theorem readPhrases_more (cs phrase rest : List Char)
    (hsplit : splitUnescaped (· == '"') cs = (phrase, '"' :: ' ' :: '|' :: ' ' :: '"' :: rest)) :
    readPhrases cs = (readPhrases rest).map fun (phrases, rest) => (phrase :: phrases, rest) := by
  rw [readPhrases]
  split
  · next phrase' rest' h =>
    rw [hsplit] at h
    cases h
    rfl
  · next h =>
    rw [hsplit] at h
    cases h
  · next h _ => exact absurd hsplit (h _ _)

private theorem readPhrases_last (cs phrase rest : List Char)
    (hsplit : splitUnescaped (· == '"') cs = (phrase, '"' :: ')' :: rest)) :
    readPhrases cs = some ([phrase], rest) := by
  rw [readPhrases]
  split
  · next h =>
    rw [hsplit] at h
    cases h
  · next phrase' rest' h =>
    rw [hsplit] at h
    cases h
    rfl
  · next h => exact absurd hsplit (h _ _)

/-- A list of quoted phrases is read as its phrases, up to the parenthesis behind it. -/
theorem readPhrases_joined (phrase : String) (phrases : List String) (rest : List Char) :
    ∃ cs, [' ', '|', ' '].intercalate ((phrase :: phrases).map quotedChars) ++ ')' :: rest =
        '"' :: cs ∧
      readPhrases cs =
        some ((phrase :: phrases).map (fun s => escapeWhere isPhraseSpecial s.toList), rest) := by
  induction phrases generalizing phrase with
  | nil =>
      refine ⟨escapeWhere isPhraseSpecial phrase.toList ++ '"' :: ')' :: rest, ?_, ?_⟩
      · simp [quotedChars]
      · exact readPhrases_last _ _ _ (splitUnescaped_phrase phrase _)
  | cons next phrases ih =>
      obtain ⟨cs, htext, hread⟩ := ih next
      refine ⟨escapeWhere isPhraseSpecial phrase.toList ++ '"' :: ' ' :: '|' :: ' ' :: '"' :: cs,
        ?_, ?_⟩
      · rw [List.map_cons, List.map_cons, List.intercalate_cons_cons, List.append_assoc,
          ← List.map_cons, htext]
        simp [quotedChars]
      · rw [readPhrases_more _ _ _ (splitUnescaped_phrase phrase _), hread]
        rfl

theorem readTags_joined (tags : List String) (hne : tags ≠ []) (rest : List Char) :
    readTags ([' ', '|', ' '].intercalate (tags.map fun s => escapeWhere isSpecial s.toList) ++
        ' ' :: '\x7d' :: rest) =
      some (tags.map (fun s => escapeWhere isSpecial s.toList), rest) := by
  have hterms : tags.map (fun s => escapeWhere isSpecial s.toList) =
      (tags.map String.toList).map (escapeWhere isSpecial) := by
    rw [List.map_map]
    rfl
  have hclose : splitUnescaped (· == '\x7d') (' ' :: '\x7d' :: rest) = ([' '], '\x7d' :: rest) := by
    rw [splitUnescaped_cons _ _ _ (by decide), splitUnescaped_stop _ _ _ (by decide) (by decide)]
    rfl
  have hbars := splitBars_intercalate (tags.map String.toList) (by simpa using hne)
  unfold readTags
  rw [hterms, splitUnescaped_joined isSpecial_of_brace (by decide), hclose]
  simp only [List.getLast?_concat, List.dropLast_concat, if_true]
  rw [hbars]

private theorem readLeaves_range (bounds : String) (rest : List Char)
    (hbounds : FreeOf (· == ']') bounds.toList) :
    readLeaves ('[' :: (bounds.toList ++ ']' :: rest)) = some ([.range bounds], rest) := by
  have hsplit : splitUnescaped (· == ']') (bounds.toList ++ ']' :: rest) =
      (bounds.toList, ']' :: rest) := by
    rw [splitUnescaped_append_of_free _ _ hbounds,
      splitUnescaped_stop _ _ _ (by decide) (by decide)]
    simp only [List.append_nil]
  simp only [readLeaves, hsplit, String.ofList_toList]

private theorem readLeaves_escapeWhere (s : String) (rest : List Char)
    (hrest : ∀ c tail, rest = c :: tail → c ∉ ['"', '[', '\x7b', '(']) :
    readLeaves (escapeWhere isSpecial s.toList ++ rest) =
      match splitUnescaped isSpecial (escapeWhere isSpecial s.toList ++ rest) with
      | (stem, '*' :: rest) => some ([.stem (unescaped stem)], rest)
      | (term, rest) => some ([.term (unescaped term)], rest) := by
  -- None of the opening characters stands unescaped at the front, so the last case applies.
  have hhead (c : Char) (tail : List Char) (hc : c ∈ ['"', '[', '\x7b', '(']) :
      escapeWhere isSpecial s.toList ++ rest ≠ c :: tail := by
    intro h
    have hspecial : (['"', '[', '\x7b', '('].all fun c => isSpecial c && c != '\\') = true := by
      decide
    obtain ⟨hc', hne⟩ : isSpecial c = true ∧ c ≠ '\\' := by
      simpa using List.all_eq_true.mp hspecial c hc
    rcases escapeWhere_head h hc' with hback | hopen
    · exact hne hback
    · exact hrest c tail hopen hc
  unfold readLeaves
  split
  · next cs h => exact absurd h (hhead '"' cs (by decide))
  · next cs h => exact absurd h (hhead '[' cs (by decide))
  · next cs h => exact absurd h (hhead '\x7b' (' ' :: cs) (by decide))
  · next cs h => exact absurd h (hhead '(' ('"' :: cs) (by decide))
  · rfl

/-- A set of tags, and what follows it, behind its first brace. -/
theorem anyTag_toList (tags : List String) (rest : List Char) :
    (Condition.anyTag tags).text.toList ++ rest =
      '\x7b' :: ' ' :: ([' ', '|', ' '].intercalate
        (tags.map fun s => escapeWhere isSpecial s.toList) ++ ' ' :: '\x7d' :: rest) := by
  have hterms : (tags.map escapedTerm).map String.toList =
      tags.map fun s => escapeWhere isSpecial s.toList := by
    rw [List.map_map]
    exact List.map_congr_left fun s _ => escapedTerm_toList s
  simp only [Condition.text, String.toList_append, String.toList_intercalate, hterms,
    List.append_assoc]
  rfl

/-- A list of phrases, and what follows it, is read behind its first quote. -/
theorem anyPhrase_toList (phrase : String) (phrases : List String) (rest : List Char) :
    ∃ cs, (Condition.anyPhrase (phrase :: phrases)).text.toList ++ rest = '(' :: '"' :: cs ∧
      readPhrases cs =
        some ((phrase :: phrases).map (fun s => escapeWhere isPhraseSpecial s.toList), rest) := by
  obtain ⟨cs, htext, hread⟩ := readPhrases_joined phrase phrases rest
  have hquoted : ((phrase :: phrases).map phraseText).map String.toList =
      (phrase :: phrases).map quotedChars := by
    rw [List.map_map]
    exact List.map_congr_left fun s _ => phraseText_toList s
  refine ⟨cs, ?_, hread⟩
  simp only [Condition.text, String.toList_append, String.toList_intercalate, hquoted,
    List.append_assoc]
  exact congrArg ('(' :: ·) htext

private theorem readLeaves_tags (tags : List String) (hne : tags ≠ []) (rest : List Char) :
    readLeaves ((Condition.anyTag tags).text.toList ++ rest) = some (tags.map .tag, rest) := by
  rw [anyTag_toList]
  simp only [readLeaves, readTags_joined tags hne, Option.map_some, List.map_map]
  congr 2
  exact List.map_congr_left fun s _ => by
    simp only [Function.comp, unescaped_escapeWhere isSpecial_backslash]

private theorem numeric_free {cs : List Char} (hcs : AllNumeric cs) : FreeOf (· == ']') cs :=
  fun c hc => isNumeric_free c (hcs c hc)

private theorem Bound.text_free (bound : Bound) : FreeOf (· == ']') bound.text.toList := by
  cases bound with
  | bottom => decide
  | top => decide
  | inclusive n => exact numeric_free n.text_numeric
  | exclusive n =>
      rw [Bound.text, String.toList_append]
      exact FreeOf.append (by decide) (numeric_free n.text_numeric)

/-- What a condition asks is read back from its text, whatever follows the clause. -/
theorem readLeaves_condition (condition : Condition) (hcondition : condition.Readable)
    (rest : List Char) (hrest : EndsUnit rest) :
    readLeaves (condition.text.toList ++ rest) = some (condition.leaves, rest) := by
  cases condition with
  | phrase s =>
      rw [Condition.text, phraseText_toList, List.cons_append, List.append_assoc,
        List.singleton_append]
      simp only [readLeaves, splitUnescaped_phrase, unescaped_escapeWhere isPhraseSpecial_backslash,
        Condition.leaves]
  | anyPhrase phrases =>
      obtain ⟨phrase, phrases, rfl⟩ := List.exists_cons_of_ne_nil hcondition
      obtain ⟨cs, hlist, hread⟩ := anyPhrase_toList phrase phrases rest
      rw [hlist]
      simp only [readLeaves, hread, Option.map_some, Condition.leaves, List.map_map]
      congr 2
      exact List.map_congr_left fun s _ => by
        simp only [Function.comp, unescaped_escapeWhere isPhraseSpecial_backslash]
  | startingWith stem =>
      have hstar : splitUnescaped isSpecial ('*' :: rest) = ([], '*' :: rest) :=
        splitUnescaped_stop _ _ _ (by decide) (by decide)
      have hread := readLeaves_escapeWhere stem ('*' :: rest) (by
        intro c tail h
        rw [← (List.cons.inj h).1]
        decide)
      rw [splitUnescaped_term stem _ hstar] at hread
      simp only [unescaped_escapeWhere isSpecial_backslash] at hread
      rw [Condition.text, String.toList_append, escapedTerm_toList, List.append_assoc]
      exact hread
  | anyTag tags => exact readLeaves_tags tags hcondition rest
  | nullTerm sentinel =>
      have hsplit := splitUnescaped_term sentinel rest hrest.splitUnescaped
      have hread := readLeaves_escapeWhere sentinel rest hrest.head_not_open
      have hterm : unescaped sentinel.toList = sentinel := by
        rw [← escapeWhere_plain sentinel hcondition, unescaped_escapeWhere isSpecial_backslash]
      rw [hsplit, escapeWhere_plain sentinel hcondition] at hread
      rcases hrest with rfl | ⟨tail, rfl | rfl⟩
      all_goals
        exact hread.trans (congrArg (fun term => some ([Leaf.term term], _)) hterm)
  | nullTag sentinel =>
      have hterm : escapedTerm sentinel = sentinel := by
        rw [← String.toList_inj, escapedTerm_toList, escapeWhere_plain sentinel hcondition]
      have hread := readLeaves_tags [sentinel] (by simp) rest
      simpa [Condition.text, Condition.leaves, hterm] using hread
  | range low high =>
      have hbounds : (Condition.text (.range low high)).toList ++ rest =
          '[' :: ((low.text ++ " " ++ high.text).toList ++ ']' :: rest) := by
        simp only [Condition.text, String.toList_append, List.append_assoc]
        rfl
      rw [hbounds]
      apply readLeaves_range
      rw [String.toList_append, String.toList_append]
      exact (low.text_free.append (by decide)).append high.text_free
  | circle lon lat radius unit =>
      have hbounds : (Condition.text (.circle lon lat radius unit)).toList ++ rest =
          '[' :: ((Decimal.text lon ++ " " ++ Decimal.text lat ++ " " ++ Decimal.text radius ++
            " " ++ unit.keyword).toList ++ ']' :: rest) := by
        simp only [Condition.text, String.toList_append, List.append_assoc]
        rfl
      have hnumber (x : Float) := numeric_free (Decimal.text_numeric x)
      have hunit : FreeOf (· == ']') unit.keyword.toList := by
        cases unit <;> decide
      rw [hbounds]
      apply readLeaves_range
      simp only [String.toList_append]
      exact ((((((hnumber lon).append (by decide)).append (hnumber lat)).append
        (by decide)).append (hnumber radius)).append (by decide)).append hunit

theorem nextToken_field (name : String) (condition : Condition) (hname : Plain name)
    (hcondition : condition.Readable) (rest : List Char) (hrest : EndsUnit rest) :
    nextToken ((Query.field name condition).text.toList ++ rest) =
      some (.clause name condition.leaves, rest) := by
  have htext : (Query.field name condition).text.toList ++ rest =
      '@' :: (name.toList ++ ':' :: (condition.text.toList ++ rest)) := by
    simp only [Query.text, String.toList_append, List.append_assoc]
    rfl
  rw [htext]
  simp only [nextToken, readName_plain name hname, readLeaves_condition condition hcondition rest
    hrest, Option.bind_eq_bind, Option.bind_some]
  rfl

/-! ### The reader over whole queries -/

namespace Reader

theorem read_nil (reader : Reader) : reader.read [] = reader.finish := by
  rw [read]
  rfl

theorem read_token {reader next : Reader} {cs rest : List Char} {token : Token}
    (hnext : nextToken cs = some (token, rest)) (hstep : reader.step token = some next) :
    reader.read cs = next.read rest := by
  have hne : cs.isEmpty = false := by
    cases cs with
    | nil => cases hnext
    | cons c cs => rfl
  rw [read, hne]
  simp only [Bool.false_eq_true, if_false]
  split
  · next h =>
    rw [hnext] at h
    cases h
  · next token' rest' h =>
    rw [hnext] at h
    cases h
    rw [hstep]

end Reader

/-- The text of a query can stand as a unit: wherever a unit is expected, reading it adds one
formula, which has the truth value of the query. -/
def Query.ReadsBack (query : Query) : Prop :=
  (∃ c cs, query.text.toList = c :: cs ∧ c ≠ '|') ∧
  ∃ formula : Formula,
    (∀ truth, formula.Holds truth ↔ query.Holds truth) ∧
    ∀ (reader : Reader) (rest : List Char), reader.expects = true → EndsUnit rest →
      reader.read (query.text.toList ++ rest) = (reader.put formula).read rest

/-- The text of a query can stand between parentheses, or alone. -/
def Query.BodyReadsBack (query : Query) : Prop :=
  ∃ formula : Formula,
    (∀ truth, formula.Holds truth ↔ query.Holds truth) ∧
    ∀ (outer : List Frame) (rest : List Char), EndsUnit rest →
      ∃ frame : Frame, frame.formula? = some formula ∧
        Reader.read { outer } (query.text.toList ++ rest) =
          Reader.read { outer, frame, expects := false } rest

theorem intercalate_eq_flatMap (separator text : List Char) (texts : List (List Char)) :
    separator.intercalate (text :: texts) = text ++ texts.flatMap (separator ++ ·) := by
  induction texts generalizing text with
  | nil => simp
  | cons next texts ih =>
      rw [List.intercalate_cons_cons, ih next, List.flatMap_cons]
      simp only [List.append_assoc]

theorem EndsUnit.flatMap {α : Type} {separator : List Char} {rest : List Char} (items : List α)
    (text : α → List Char) (hseparator : ∃ tail, separator = ' ' :: tail) (hrest : EndsUnit rest) :
    EndsUnit (items.flatMap (fun item => separator ++ text item) ++ rest) := by
  obtain ⟨tail, rfl⟩ := hseparator
  cases items with
  | nil => exact hrest
  | cons item items => exact Or.inr ⟨_, Or.inl rfl⟩

/-- Units that follow a unit after spaces join its alternative. -/
private theorem read_units (queries : List Query) (hqueries : ∀ query ∈ queries, query.ReadsBack)
    (units : Formula) :
    ∃ formula : Formula,
      (∀ truth, formula.Holds truth ↔
        units.Holds truth ∧ ∀ query ∈ queries, query.Holds truth) ∧
      ∀ (outer : List Frame) (earlier : Option Formula) (rest : List Char), EndsUnit rest →
        Reader.read { outer, frame := { earlier, units := some units }, expects := false }
            (queries.flatMap (fun query => [' '] ++ query.text.toList) ++ rest) =
          Reader.read { outer, frame := { earlier, units := some formula }, expects := false }
            rest := by
  -- The units read so far grow from step to step, so the induction is for any of them.
  induction queries generalizing units with
  | nil => exact ⟨units, by simp, fun _ _ _ _ => rfl⟩
  | cons query queries ih =>
      obtain ⟨⟨c, cs, hhead, hbar⟩, formula, hformula, hread⟩ := hqueries query List.mem_cons_self
      obtain ⟨whole, hwhole, hrest⟩ :=
        ih (fun q hq => hqueries q (List.mem_cons_of_mem query hq)) (.and units formula)
      refine ⟨whole, ?_, ?_⟩
      · intro truth
        rw [hwhole truth]
        simp [Formula.Holds, hformula truth, and_assoc]
      · intro outer earlier rest hends
        have htail := hends.flatMap queries (fun q => q.text.toList) ⟨[], rfl⟩
        have hspace : nextToken (' ' :: (query.text.toList ++
            (queries.flatMap (fun q => [' '] ++ q.text.toList) ++ rest))) =
            some (.space, query.text.toList ++
              (queries.flatMap (fun q => [' '] ++ q.text.toList) ++ rest)) := by
          -- No unit starts with a bar, so the space is not the first of a bar's spaces.
          rw [hhead, List.cons_append, nextToken]
          intro tail h
          exact absurd (List.cons.inj h).1 hbar
        have hstep : (Reader.mk outer { earlier, units := some units } false).step .space =
            some { outer, frame := { earlier, units := some units } } := rfl
        rw [List.flatMap_cons, List.append_assoc, List.append_assoc, List.singleton_append,
          Reader.read_token hspace hstep, hread _ _ rfl htail]
        exact hrest outer earlier rest hends

/-- Units that follow an alternative after bars are alternatives to it. -/
private theorem read_alternatives (queries : List Query)
    (hqueries : ∀ query ∈ queries, query.ReadsBack) (before : Formula) :
    ∃ formula : Formula,
      (∀ truth, formula.Holds truth ↔
        before.Holds truth ∨ ∃ query ∈ queries, query.Holds truth) ∧
      ∀ (outer : List Frame) (frame : Frame) (rest : List Char),
        frame.formula? = some before → EndsUnit rest →
        ∃ next : Frame, next.formula? = some formula ∧
          Reader.read { outer, frame, expects := false }
              (queries.flatMap (fun query => [' ', '|', ' '] ++ query.text.toList) ++ rest) =
            Reader.read { outer, frame := next, expects := false } rest := by
  induction queries generalizing before with
  | nil => exact ⟨before, by simp, fun _ frame _ hframe _ => ⟨frame, hframe, rfl⟩⟩
  | cons query queries ih =>
      obtain ⟨-, formula, hformula, hread⟩ := hqueries query List.mem_cons_self
      obtain ⟨whole, hwhole, hrest⟩ :=
        ih (fun q hq => hqueries q (List.mem_cons_of_mem query hq)) (.or before formula)
      refine ⟨whole, ?_, ?_⟩
      · intro truth
        rw [hwhole truth]
        simp [Formula.Holds, hformula truth, or_assoc]
      · intro outer frame rest hframe hends
        have htail := hends.flatMap queries (fun q => q.text.toList) ⟨['|', ' '], rfl⟩
        obtain ⟨next, hnext, hmore⟩ := hrest outer { earlier := some before, units := some formula }
          rest rfl hends
        refine ⟨next, hnext, ?_⟩
        -- A bar closes the alternative: what the frame amounts to moves to the earlier ones.
        have hstep : (Reader.mk outer frame false).step .bar =
            some { outer, frame := { earlier := some before } } := by
          rw [← hframe]
          rfl
        rw [List.flatMap_cons, List.append_assoc, List.append_assoc]
        calc
          _ = Reader.read { outer, frame := { earlier := some before } } (query.text.toList ++ _) :=
            Reader.read_token rfl hstep
          _ = _ := hread _ _ rfl htail
          _ = _ := hmore

theorem text_list (separator : String) (query : Query) (queries : List Query) :
    (String.intercalate separator (Query.texts (query :: queries))).toList =
      query.text.toList ++
        queries.flatMap (fun query => separator.toList ++ query.text.toList) := by
  rw [Query.texts_eq_map, String.toList_intercalate, List.map_cons, List.map_cons,
    intercalate_eq_flatMap, List.map_map, List.flatMap_map]
  rfl

theorem bodyReadsBack_all (queries : List Query) (hne : queries ≠ [])
    (hqueries : ∀ query ∈ queries, query.ReadsBack) : (Query.all queries).BodyReadsBack := by
  obtain ⟨query, queries, rfl⟩ := List.exists_cons_of_ne_nil hne
  obtain ⟨-, first, hfirst, hread⟩ := hqueries query List.mem_cons_self
  obtain ⟨formula, hformula, hrest⟩ :=
    read_units queries (fun q hq => hqueries q (List.mem_cons_of_mem query hq)) first
  refine ⟨formula, ?_, ?_⟩
  · intro truth
    rw [hformula truth, hfirst truth]
    simp only [Query.Holds, Query.AllHold, Query.allHold_iff]
  · intro outer rest hends
    have htail := hends.flatMap queries (fun q => q.text.toList) ⟨[], rfl⟩
    refine ⟨{ units := some formula }, rfl, ?_⟩
    rw [Query.text, text_list, List.append_assoc]
    exact (hread _ _ rfl htail).trans (hrest outer none rest hends)

theorem bodyReadsBack_any (queries : List Query) (hne : queries ≠ [])
    (hqueries : ∀ query ∈ queries, query.ReadsBack) : (Query.any queries).BodyReadsBack := by
  obtain ⟨query, queries, rfl⟩ := List.exists_cons_of_ne_nil hne
  obtain ⟨-, first, hfirst, hread⟩ := hqueries query List.mem_cons_self
  obtain ⟨formula, hformula, hrest⟩ :=
    read_alternatives queries (fun q hq => hqueries q (List.mem_cons_of_mem query hq)) first
  refine ⟨formula, ?_, ?_⟩
  · intro truth
    rw [hformula truth, hfirst truth]
    simp only [Query.Holds, Query.AnyHolds, Query.anyHolds_iff]
  · intro outer rest hends
    have htail := hends.flatMap queries (fun q => q.text.toList) ⟨['|', ' '], rfl⟩
    obtain ⟨frame, hframe, hmore⟩ := hrest outer { units := some first } rest rfl hends
    refine ⟨frame, hframe, ?_⟩
    rw [Query.text, text_list, List.append_assoc]
    exact (hread _ _ rfl htail).trans hmore

/-- Parentheses make a unit of a list. -/
theorem readsBack_group (query : Query) (hquery : query.BodyReadsBack) :
    (Query.group query).ReadsBack := by
  obtain ⟨formula, hformula, hread⟩ := hquery
  have htext : (Query.group query).text.toList = '(' :: (query.text.toList ++ [')']) := by
    simp only [Query.text, String.toList_append]
    rfl
  refine ⟨⟨'(', _, htext, by decide⟩, formula, ?_, ?_⟩
  · intro truth
    rw [hformula truth]
    simp only [Query.Holds]
  · intro reader rest hexpects hends
    have hopen : reader.step .opening = some { outer := reader.frame :: reader.outer } := by
      rw [Reader.step, if_pos hexpects]
    obtain ⟨frame, hframe, hbody⟩ :=
      hread (reader.frame :: reader.outer) (')' :: rest) (Or.inr ⟨rest, Or.inr rfl⟩)
    have hclose : (Reader.mk (reader.frame :: reader.outer) frame false).step .closing =
        some (reader.put formula) := by
      simp only [Reader.step, hframe]
      rfl
    rw [htext, List.cons_append, List.append_assoc, List.singleton_append]
    calc
      _ = Reader.read { outer := reader.frame :: reader.outer }
          (query.text.toList ++ ')' :: rest) := Reader.read_token rfl hopen
      _ = Reader.read (Reader.mk (reader.frame :: reader.outer) frame false) (')' :: rest) := hbody
      _ = (reader.put formula).read rest := Reader.read_token rfl hclose

theorem readsBack_not (query : Query) (hquery : query.ReadsBack) :
    (Query.not query).ReadsBack := by
  obtain ⟨-, formula, hformula, hread⟩ := hquery
  have htext : (Query.not query).text.toList = '-' :: query.text.toList := by
    simp only [Query.text, String.toList_append]
    rfl
  refine ⟨⟨'-', _, htext, by decide⟩, .not formula, ?_, ?_⟩
  · intro truth
    simp only [Formula.Holds, Query.Holds, hformula truth]
  · intro reader rest hexpects hends
    let waiting : Reader :=
      { reader with frame := { reader.frame with minuses := reader.frame.minuses + 1 } }
    have hminus : reader.step .minus = some waiting := by
      rw [Reader.step, if_pos hexpects]
    rw [htext, List.cons_append, Reader.read_token rfl hminus, hread waiting rest hexpects hends]
    rfl

theorem readsBack_field (name : String) (condition : Condition) (hname : Plain name)
    (hcondition : condition.Readable) : (Query.field name condition).ReadsBack := by
  have htext : (Query.field name condition).text.toList =
      '@' :: (name.toList ++ ':' :: condition.text.toList) := by
    simp only [Query.text, String.toList_append, List.append_assoc]
    rfl
  refine ⟨⟨'@', _, htext, by decide⟩, .clause name condition.leaves, ?_, ?_⟩
  · intro truth
    simp only [Formula.Holds, Query.Holds]
  · intro reader rest hexpects hends
    have hclause : reader.step (.clause name condition.leaves) =
        some (reader.put (.clause name condition.leaves)) := by
      rw [Reader.step, if_pos hexpects]
    exact Reader.read_token (nextToken_field name condition hname hcondition rest hends) hclause

/-- Every unit is read back. -/
theorem Query.IsUnit.readsBack {query : Query} (hquery : query.IsUnit) : query.ReadsBack := by
  induction hquery with
  | field hname hcondition => exact readsBack_field _ _ hname hcondition
  | not _ ih => exact readsBack_not _ ih
  | all hne _ ih => exact readsBack_group _ (bodyReadsBack_all _ hne ih)
  | any hne _ ih => exact readsBack_group _ (bodyReadsBack_any _ hne ih)

/-- A unit may stand alone. -/
theorem read?_of_readsBack (query : Query) (hquery : query.ReadsBack) :
    ∃ formula, Formula.read? query.text = some formula ∧
      ∀ truth, formula.Holds truth ↔ query.Holds truth := by
  obtain ⟨-, formula, hformula, hread⟩ := hquery
  have hwhole := hread {} [] rfl (Or.inl rfl)
  refine ⟨formula, ?_, hformula⟩
  rw [List.append_nil, Reader.read_nil] at hwhole
  exact hwhole

/-- A query that may stand between parentheses may stand alone. -/
theorem read?_of_bodyReadsBack (query : Query) (hquery : query.BodyReadsBack) :
    ∃ formula, Formula.read? query.text = some formula ∧
      ∀ truth, formula.Holds truth ↔ query.Holds truth := by
  obtain ⟨formula, hformula, hread⟩ := hquery
  obtain ⟨frame, hframe, hbody⟩ := hread [] [] (Or.inl rfl)
  refine ⟨formula, ?_, hformula⟩
  rw [List.append_nil, Reader.read_nil] at hbody
  exact hbody.trans hframe

end FullText
