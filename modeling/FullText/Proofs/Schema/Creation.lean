import FullText.Schema

/-!
The arguments that create an index, read from left to right. The reader takes the name of the index,
its options in their order and then field after field, each with all the options that it can take.
It reads back the schema that the arguments were made from, provided that no field is named like an
option of the field in front of it.
-/

namespace FullText

/-- A reader of the front of a list of arguments. -/
abbrev ArgReader (α : Type) :=
  StateT (List Arg) Option α

def Arg.text? : Arg → Option String
  | .text s => some s
  | _ => none

namespace ArgReader

/-! ### Single arguments -/

def text : ArgReader String
  | .text s :: rest => some (s, rest)
  | _ => none

def float : ArgReader Float
  | .float x :: rest => some (x, rest)
  | _ => none

def count : ArgReader Nat
  | .int (.ofNat n) :: rest => some (n, rest)
  | _ => none

def word (expected : String) : ArgReader Unit := do
  guard ((← text) = expected)

/-- One of several words, each of which stands for something. -/
def wordOf {α : Type} (keyword : α → String) (choices : List α) : ArgReader α := do
  let s ← text
  choices.find? fun choice => keyword choice == s

def take (n : Nat) : ArgReader (List Arg) := fun args =>
  if n ≤ args.length then some (args.take n, args.drop n) else none

/-- Texts with their number in front of them. -/
def counted : ArgReader (List String) := do
  let args ← take (← count)
  (args.mapM Arg.text? : Option (List String))

/-- What stands behind a keyword, if the keyword comes next. -/
def optional {α : Type} (keyword : String) (reader : ArgReader α) : ArgReader (Option α)
  | .text s :: rest =>
    if s = keyword then (reader.run rest).map fun (a, rest) => (some a, rest)
    else some (none, .text s :: rest)
  | args => some (none, args)

def flag (keyword : String) : ArgReader Bool := do
  return (← optional keyword (pure ())).isSome

/-- The first of several words that comes next, if one does. -/
def choice {α : Type} (keyword : α → String) : List α → ArgReader (Option α)
  | [] => pure none
  | a :: choices => do
    if ← flag (keyword a) then return some a else choice keyword choices

/-! ### Fields -/

/-- The attributes of a vector field, whose number stands behind the algorithm. -/
def vectorParams (algorithm : VectorAlgorithm) : ArgReader VectorParams := do
  word "TYPE"
  let dataType ← wordOf VectorType.keyword [.float32, .float64]
  word "DIM"
  let dim ← count
  guard (dim < UInt32.size)
  word "DISTANCE_METRIC"
  let distance ← wordOf DistanceMetric.keyword [.l2, .innerProduct, .cosine]
  return { algorithm, dataType, dim := .ofNat dim, distance }

/-- The type of a field behind the keyword of its kind. Every option that can come is taken. -/
def fieldType : FieldKind → ArgReader FieldType
  | .text => do
    word "WEIGHT"
    return .text (← float) (← flag "NOSTEM") (← flag "SORTABLE") (← flag "NOINDEX")
  | .tag => do
    word "SEPARATOR"
    return .tag (← text) (← flag "SORTABLE") (← flag "NOINDEX")
  | .numeric => return .numeric (← flag "SORTABLE") (← flag "NOINDEX")
  | .geo => return .geo (← flag "NOINDEX")
  | .geoShape => return .geoShape (← choice CoordSystem.keyword [.flat, .spherical])
  | .vector => do
    let some algorithm ← choice VectorAlgorithm.keyword [.flat, .hnsw] | return .vector none
    let (params, []) ← (vectorParams algorithm).run (← take (← count)) | failure
    return .vector (some params)

def field : ArgReader Field := do
  let name ← text
  let kind ← wordOf FieldKind.keyword FieldKind.all
  return { name, type := ← fieldType kind }

/-- Fields up to the end of the arguments. Every field takes an argument at least. -/
def fields (args : List Arg) : Option (List Field) :=
  if args.isEmpty then some []
  else
    match field.run args with
    | some (first, rest) =>
      if rest.length < args.length then (fields rest).map fun more => first :: more else none
    | none => none
termination_by args.length

/-! ### The index -/

def index : ArgReader Schema := do
  let name ← text
  let storage := if (← optional "ON" (word "JSON")).isSome then Storage.json else .hash
  let keyPrefixes ← optional "PREFIX" counted
  let language ← optional "LANGUAGE" text
  let noOffsets ← flag "NOOFFSETS"
  let noFields ← flag "NOFIELDS"
  let noFrequencies ← flag "NOFREQS"
  let stopWords ← optional "STOPWORDS" counted
  word "SCHEMA"
  return { name, storage, keyPrefixes, language, noOffsets, noFields, noFrequencies, stopWords }

end ArgReader

def Schema.read? (args : List Arg) : Option Schema := do
  let (schema, rest) ← ArgReader.index.run args
  return { schema with fields := ← ArgReader.fields rest }

/-! ### Reading back what is written -/

/-- The words of options that stand behind a field. -/
def optionWords : List String :=
  ["SORTABLE", "NOINDEX", "NOSTEM", "FLAT", "SPHERICAL", "HNSW"]

/-- Arguments that do not begin with a word. -/
def Avoids (word : String) (args : List Arg) : Prop :=
  ∀ rest, args ≠ .text word :: rest

theorem Avoids.nil (word : String) : Avoids word [] := by
  simp [Avoids]

theorem Avoids.text {word s : String} (hne : s ≠ word) (rest : List Arg) :
    Avoids word (.text s :: rest) := by
  simp [Avoids, hne]

theorem Avoids.flag {word : String} {rest : List Arg} (keyword : String) (set : Bool)
    (hne : keyword ≠ word) (hrest : Avoids word rest) :
    Avoids word (FieldType.flag keyword set ++ rest) := by
  cases set with
  | false => exact hrest
  | true => exact .text hne rest

/-- Arguments that begin with one of several words. -/
def StartsWith (words : List String) (args : List Arg) : Prop :=
  ∃ word ∈ words, ∃ rest, args = .text word :: rest

theorem StartsWith.avoids {words : List String} {args : List Arg} (h : StartsWith words args)
    {word : String} (hword : word ∉ words) : Avoids word args := by
  obtain ⟨other, hother, rest, rfl⟩ := h
  apply Avoids.text
  rintro rfl
  exact hword hother

theorem StartsWith.text (keyword : String) (words : List String) (rest : List Arg) :
    StartsWith (keyword :: words) (.text keyword :: rest) :=
  ⟨keyword, List.mem_cons_self, rest, rfl⟩

theorem StartsWith.later {words : List String} {args : List Arg} (h : StartsWith words args)
    (keyword : String) : StartsWith (keyword :: words) args := by
  obtain ⟨word, hword, rest, rfl⟩ := h
  exact ⟨word, List.mem_cons_of_mem keyword hword, rest, rfl⟩

theorem StartsWith.flag {words : List String} {rest : List Arg} (keyword : String) (set : Bool)
    (h : StartsWith words rest) :
    StartsWith (keyword :: words) (FieldType.flag keyword set ++ rest) := by
  cases set with
  | false => exact h.later keyword
  | true => exact .text keyword words rest

theorem StartsWith.counted {words : List String} {rest : List Arg} (keyword : String)
    (texts : Option (List String)) (h : StartsWith words rest) :
    StartsWith (keyword :: words) (Schema.countedTokens keyword texts ++ rest) := by
  cases texts with
  | none => exact h.later keyword
  | some texts => exact .text keyword words _

private def storageTokens : Storage → List Arg
  | .hash => []
  | .json => [.text "ON", .text "JSON"]

private def languageTokens : Option String → List Arg
  | none => []
  | some language => [.text "LANGUAGE", .text language]

private theorem StartsWith.language {words : List String} {rest : List Arg}
    (language : Option String) (h : StartsWith words rest) :
    StartsWith ("LANGUAGE" :: words) (languageTokens language ++ rest) := by
  cases language with
  | none => exact h.later "LANGUAGE"
  | some language => exact .text "LANGUAGE" words _

namespace ArgReader

variable {α β : Type} {rest : List Arg}

theorem run_bind {reader : ArgReader α} {next : α → ArgReader β} {args rest : List Arg} {a : α}
    (h : reader.run args = some (a, rest)) : (reader >>= next).run args = (next a).run rest := by
  rw [StateT.run_bind, h]
  rfl

theorem run_text (s : String) : text.run (.text s :: rest) = some (s, rest) := rfl

theorem run_float (x : Float) : float.run (.float x :: rest) = some (x, rest) := rfl

theorem run_count (n : Nat) : count.run (.int n :: rest) = some (n, rest) := rfl

theorem run_word (expected : String) :
    (word expected).run (.text expected :: rest) = some ((), rest) := by
  have hsame : (guard (expected = expected) : ArgReader Unit) = pure () := if_pos rfl
  rw [word, run_bind (run_text expected), hsame]
  rfl

theorem run_wordOf (keyword : α → String) (choices : List α) (a : α)
    (hfind : (choices.find? fun choice => keyword choice == keyword a) = some a) :
    (wordOf keyword choices).run (.text (keyword a) :: rest) = some (a, rest) := by
  rw [wordOf, run_bind (run_text (keyword a)), hfind]
  rfl

theorem run_take (args : List Arg) :
    (take args.length).run (args ++ rest) = some (args, rest) := by
  simp [take, StateT.run]

theorem mapM_text? (texts : List String) :
    (texts.map Arg.text).mapM Arg.text? = some texts := by
  induction texts with
  | nil => rfl
  | cons s texts ih => simp [Arg.text?, ih]

theorem run_take_texts (texts : List String) :
    (take texts.length).run (texts.map .text ++ rest) = some (texts.map .text, rest) := by
  simpa using run_take (texts.map Arg.text)

theorem run_counted (texts : List String) (hlength : (texts.length : Int) ≤ Decimal.int64Max) :
    counted.run (.count texts.length :: texts.map .text ++ rest) = some (texts, rest) := by
  have hcount : Arg.count texts.length = .int texts.length := by
    rw [Arg.count, Int.min_eq_left hlength]
  rw [hcount, List.cons_append, counted, run_bind (run_count texts.length),
    run_bind (run_take_texts texts), mapM_text?]
  rfl

theorem run_optional_absent (keyword : String) (reader : ArgReader α) {args : List Arg}
    (hargs : Avoids keyword args) : (optional keyword reader).run args = some (none, args) := by
  unfold optional StateT.run
  dsimp only
  split
  · next s rest =>
    rw [if_neg]
    rintro rfl
    exact hargs rest rfl
  · rfl

theorem run_optional_present (keyword : String) {reader : ArgReader α} {args : List Arg} {a : α}
    (hreader : reader.run args = some (a, rest)) :
    (optional keyword reader).run (.text keyword :: args) = some (some a, rest) := by
  simp only [optional, StateT.run, if_true] at hreader ⊢
  rw [hreader]
  rfl

theorem run_flag_absent (keyword : String) {args : List Arg} (hargs : Avoids keyword args) :
    (flag keyword).run args = some (false, args) :=
  run_bind (run_optional_absent keyword (pure ()) hargs)

theorem run_flag_present (keyword : String) :
    (flag keyword).run (.text keyword :: rest) = some (true, rest) :=
  run_bind (run_optional_present keyword rfl)

theorem run_flag (keyword : String) (set : Bool) (hrest : Avoids keyword rest) :
    (flag keyword).run (FieldType.flag keyword set ++ rest) = some (set, rest) := by
  cases set with
  | false => exact run_flag_absent keyword hrest
  | true => exact run_flag_present keyword

theorem run_choice_absent (keyword : α → String) (choices : List α) {args : List Arg}
    (hargs : ∀ a ∈ choices, Avoids (keyword a) args) :
    (choice keyword choices).run args = some (none, args) := by
  induction choices with
  | nil => rfl
  | cons a choices ih =>
      obtain ⟨hfirst, hmore⟩ := List.forall_mem_cons.mp hargs
      rw [choice, run_bind (run_flag_absent (keyword a) hfirst)]
      exact ih hmore

/-- A word is found among several that are told apart. -/
theorem run_choice (keyword : α → String) (choices : List α) {a : α} (ha : a ∈ choices)
    (hinj : ∀ b ∈ choices, keyword a = keyword b → a = b) :
    (choice keyword choices).run (.text (keyword a) :: rest) = some (some a, rest) := by
  induction choices with
  | nil => cases ha
  | cons b choices ih =>
      obtain ⟨hfirst, hmore⟩ := List.forall_mem_cons.mp hinj
      rw [choice]
      by_cases hword : keyword a = keyword b
      · obtain rfl := hfirst hword
        rw [run_bind (run_flag_present (keyword a))]
        rfl
      · have hother : Avoids (keyword b) (.text (keyword a) :: rest) := .text hword rest
        rw [run_bind (run_flag_absent (keyword b) hother)]
        refine ih ((List.mem_cons.mp ha).resolve_left ?_) hmore
        rintro rfl
        exact hword rfl

/-! ### Fields read back -/

/-- The tokens of a vector field behind their number. -/
private def attributes (params : VectorParams) : List Arg :=
  [.text "TYPE", .text params.dataType.keyword, .text "DIM", .int params.dim.toNat,
    .text "DISTANCE_METRIC", .text params.distance.keyword]

private theorem run_vectorParams (params : VectorParams) :
    (vectorParams params.algorithm).run (attributes params) = some (params, []) := by
  have htype : ([.float32, .float64].find? fun choice =>
      VectorType.keyword choice == params.dataType.keyword) = some params.dataType := by
    cases params.dataType <;> decide
  have hdistance : ([.l2, .innerProduct, .cosine].find? fun choice =>
      DistanceMetric.keyword choice == params.distance.keyword) = some params.distance := by
    cases params.distance <;> decide
  have hdim : (guard (params.dim.toNat < UInt32.size) : ArgReader Unit) = pure () :=
    if_pos params.dim.toNat_lt_size
  rw [vectorParams, attributes, run_bind (run_word _), run_bind (run_wordOf _ _ _ htype),
    run_bind (run_word _), run_bind (run_count _), hdim,
    run_bind (rfl : (pure () : ArgReader Unit).run _ = some ((), _)), run_bind (run_word _),
    run_bind (run_wordOf _ _ _ hdistance), UInt32.ofNat_toNat]
  rfl

private theorem run_vectorType (params : VectorParams) :
    (fieldType .vector).run ((FieldType.vector (some params)).tokens ++ rest) =
      some (.vector (some params), rest) := by
  have htokens : (FieldType.vector (some params)).tokens ++ rest =
      .text params.algorithm.keyword :: .int (6 : Nat) :: (attributes params ++ rest) := rfl
  have halgorithm {args : List Arg} : (choice VectorAlgorithm.keyword [.flat, .hnsw]).run
      (.text params.algorithm.keyword :: args) = some (some params.algorithm, args) :=
    run_choice VectorAlgorithm.keyword [.flat, .hnsw] (by cases params.algorithm <;> decide)
      fun other _ => by cases params.algorithm <;> cases other <;> decide
  have htake : (take 6).run (attributes params ++ rest) = some (attributes params, rest) :=
    run_take (attributes params)
  rw [htokens, fieldType, run_bind halgorithm]
  dsimp only
  rw [run_bind (run_count 6), run_bind htake, run_vectorParams]
  rfl

/-- The attributes of a field are read back, whatever follows that is no option of a field. -/
theorem run_fieldType (type : FieldType) (hrest : ∀ word ∈ optionWords, Avoids word rest) :
    (fieldType type.kind).run (type.tokens ++ rest) = some (type, rest) := by
  have hsortable := hrest "SORTABLE" (by decide)
  have hnoIndex := hrest "NOINDEX" (by decide)
  have hnoStem := hrest "NOSTEM" (by decide)
  cases type with
  | text weight noStem sortable noIndex =>
      have hlast := run_flag "NOINDEX" noIndex hnoIndex
      have hmiddle := run_flag "SORTABLE" sortable (hsortable.flag "NOINDEX" noIndex (by decide))
      have hfirst := run_flag "NOSTEM" noStem
        ((hnoStem.flag "NOINDEX" noIndex (by decide)).flag "SORTABLE" sortable (by decide))
      simp only [FieldType.tokens, FieldType.kind, fieldType, List.cons_append, List.append_assoc]
      rw [run_bind (run_word _), run_bind (run_float weight), run_bind hfirst, run_bind hmiddle,
        run_bind hlast]
      rfl
  | tag separator sortable noIndex =>
      have hlast := run_flag "NOINDEX" noIndex hnoIndex
      have hfirst := run_flag "SORTABLE" sortable (hsortable.flag "NOINDEX" noIndex (by decide))
      simp only [FieldType.tokens, FieldType.kind, fieldType, List.cons_append, List.append_assoc]
      rw [run_bind (run_word _), run_bind (run_text separator), run_bind hfirst, run_bind hlast]
      rfl
  | numeric sortable noIndex =>
      have hlast := run_flag "NOINDEX" noIndex hnoIndex
      have hfirst := run_flag "SORTABLE" sortable (hsortable.flag "NOINDEX" noIndex (by decide))
      simp only [FieldType.tokens, FieldType.kind, fieldType, List.append_assoc]
      rw [run_bind hfirst, run_bind hlast]
      rfl
  | geo noIndex => exact run_bind (run_flag "NOINDEX" noIndex hnoIndex)
  | geoShape coords =>
      refine run_bind ?_
      cases coords with
      | none =>
          exact run_choice_absent CoordSystem.keyword [.flat, .spherical] fun coords _ =>
            hrest coords.keyword (by cases coords <;> decide)
      | some coords =>
          exact run_choice CoordSystem.keyword [.flat, .spherical]
            (by cases coords <;> decide) fun other _ => by cases coords <;> cases other <;> decide
  | vector params =>
      cases params with
      | none =>
          exact run_bind (run_choice_absent VectorAlgorithm.keyword [.flat, .hnsw]
            fun algorithm _ => hrest algorithm.keyword (by cases algorithm <;> decide))
      | some params => exact run_vectorType params

theorem run_field (f : Field) (hrest : ∀ word ∈ optionWords, Avoids word rest) :
    field.run (f.tokens ++ rest) = some (f, rest) := by
  have hkind : (FieldKind.all.find? fun kind => kind.keyword == f.kind.keyword) = some f.kind := by
    cases f.kind <;> decide
  rw [Field.tokens, List.cons_append, List.cons_append, field, run_bind (run_text f.name),
    run_bind (run_wordOf _ _ _ hkind), Field.kind, run_bind (run_fieldType f.type hrest)]
  rfl

/-- Fields none of which has the name of an option are told apart. -/
theorem fields_flatMap (fs : List Field) (hnames : ∀ f ∈ fs, f.name ∉ optionWords) :
    fields (fs.flatMap Field.tokens) = some fs := by
  induction fs with
  | nil =>
      rw [fields]
      rfl
  | cons f fs ih =>
      obtain ⟨-, hmore⟩ := List.forall_mem_cons.mp hnames
      -- What follows a field is nothing, or the name of the next one.
      have hrest : ∀ word ∈ optionWords, Avoids word (fs.flatMap Field.tokens) := by
        intro word hword
        cases fs with
        | nil => exact .nil word
        | cons next fs =>
            apply Avoids.text
            rintro rfl
            exact hmore next List.mem_cons_self hword
      have hlonger : (fs.flatMap Field.tokens).length <
          (f.tokens ++ fs.flatMap Field.tokens).length := by
        rw [List.length_append, Field.tokens, List.length_cons]
        omega
      rw [List.flatMap_cons, fields, run_field f hrest]
      simp only [if_pos hlonger, ih hmore]
      rfl

/-! ### Indexes read back -/

private theorem run_storage (storage : Storage) (hrest : Avoids "ON" rest) :
    (optional "ON" (word "JSON")).run (storageTokens storage ++ rest) =
      some (if storage = .json then some () else none, rest) := by
  cases storage with
  | hash => exact run_optional_absent "ON" (word "JSON") hrest
  | json => exact run_optional_present "ON" (run_word "JSON")

private theorem run_language (language : Option String) (hrest : Avoids "LANGUAGE" rest) :
    (optional "LANGUAGE" text).run (languageTokens language ++ rest) = some (language, rest) := by
  cases language with
  | none => exact run_optional_absent "LANGUAGE" text hrest
  | some language => exact run_optional_present "LANGUAGE" (run_text language)

private theorem run_optional_counted (keyword : String) (texts : Option (List String))
    (htexts : ∀ list ∈ texts, (list.length : Int) ≤ Decimal.int64Max)
    (hrest : Avoids keyword rest) :
    (optional keyword counted).run (Schema.countedTokens keyword texts ++ rest) =
      some (texts, rest) := by
  cases texts with
  | none => exact run_optional_absent keyword counted hrest
  | some texts => exact run_optional_present keyword (run_counted texts (htexts texts rfl))

/-- The name and the options of an index are read back up to its fields. -/
theorem run_index (schema : Schema)
    (hprefixes : ∀ list ∈ schema.keyPrefixes, (list.length : Int) ≤ Decimal.int64Max)
    (hstopWords : ∀ list ∈ schema.stopWords, (list.length : Int) ≤ Decimal.int64Max) :
    index.run (.text schema.name :: schema.optionTokens ++ .text "SCHEMA" :: rest) =
      some ({ schema with fields := [] }, rest) := by
  -- From the back to the front: each part that may be missing is followed by a later keyword.
  have hfields : StartsWith ["SCHEMA"] (.text "SCHEMA" :: rest) := .text _ _ _
  have hstops := hfields.counted "STOPWORDS" schema.stopWords
  have hfrequencies := hstops.flag "NOFREQS" schema.noFrequencies
  have hnoFields := hfrequencies.flag "NOFIELDS" schema.noFields
  have hoffsets := hnoFields.flag "NOOFFSETS" schema.noOffsets
  have hlanguage := hoffsets.language schema.language
  have hkeys := hlanguage.counted "PREFIX" schema.keyPrefixes
  have htokens : schema.optionTokens ++ .text "SCHEMA" :: rest =
      storageTokens schema.storage ++ (Schema.countedTokens "PREFIX" schema.keyPrefixes ++
        (languageTokens schema.language ++ (FieldType.flag "NOOFFSETS" schema.noOffsets ++
          (FieldType.flag "NOFIELDS" schema.noFields ++
            (FieldType.flag "NOFREQS" schema.noFrequencies ++
              (Schema.countedTokens "STOPWORDS" schema.stopWords ++
                .text "SCHEMA" :: rest)))))) := by
    simp only [Schema.optionTokens, List.append_assoc]
    rfl
  rw [List.cons_append, htokens, index, run_bind (run_text schema.name),
    run_bind (run_storage schema.storage (hkeys.avoids (by decide))),
    run_bind (run_optional_counted "PREFIX" _ hprefixes (hlanguage.avoids (by decide))),
    run_bind (run_language _ (hoffsets.avoids (by decide))),
    run_bind (run_flag "NOOFFSETS" _ (hnoFields.avoids (by decide))),
    run_bind (run_flag "NOFIELDS" _ (hfrequencies.avoids (by decide))),
    run_bind (run_flag "NOFREQS" _ (hstops.avoids (by decide))),
    run_bind (run_optional_counted "STOPWORDS" _ hstopWords (hfields.avoids (by decide))),
    run_bind (run_word "SCHEMA")]
  cases schema.storage <;> rfl

end ArgReader

/-- The arguments that create an index determine its schema. The lists of a schema are counted
exactly when they are no longer than the greatest integer of the store, which no list in memory
is. -/
theorem creationTokens_read? (schema : Schema) (hfields : schema.fields ≠ [])
    (hnames : ∀ field ∈ schema.fields, field.name ∉ optionWords)
    (hprefixes : ∀ list ∈ schema.keyPrefixes, (list.length : Int) ≤ Decimal.int64Max)
    (hstopWords : ∀ list ∈ schema.stopWords, (list.length : Int) ≤ Decimal.int64Max) :
    ∃ args, schema.creationTokens = .ok args ∧ Schema.read? args = some schema := by
  refine ⟨.text schema.name :: schema.optionTokens ++
    .text "SCHEMA" :: schema.fields.flatMap Field.tokens, ?_, ?_⟩
  · rw [Schema.creationTokens, if_neg (by simpa using hfields)]
  · rw [Schema.read?, ArgReader.run_index schema hprefixes hstopWords, Option.bind_eq_bind,
      Option.bind_some]
    dsimp only
    rw [ArgReader.fields_flatMap schema.fields hnames]
    rfl

/-- An index whose texts are spelled like the keywords around them. -/
def wordyIndex : Schema where
  name := "ON"
  storage := .json
  keyPrefixes := some []
  language := some "SCHEMA"
  stopWords := some ["NOFREQS", "SCHEMA"]
  fields := [.text "TAG" 1 true, .geoShape "SCHEMA", .vector "VECTOR" (some (.hnsw 3)), .tag "GEO"]

theorem wordyIndex_read? :
    ∃ args, wordyIndex.creationTokens = .ok args ∧ Schema.read? args = some wordyIndex := by
  have hlengths : ∀ words ∈ [[], ["NOFREQS", "SCHEMA"]],
      (words.length : Int) ≤ Decimal.int64Max := by
    decide
  refine creationTokens_read? wordyIndex (List.cons_ne_nil _ _) (by decide) ?_ ?_
  · rintro list ⟨⟩
    exact hlengths [] (by decide)
  · rintro list ⟨⟩
    exact hlengths _ (by decide)

end FullText
