import FullText.Proofs.Decimal.Integers
import FullText.Proofs.Except
import FullText.Proofs.Schema.Creation
import FullText.Search

/-!
The arguments of a search, read from left to right as they go to the store, which sees nothing but
texts. The reader takes the index and the query, and then each directive that its keyword announces.
It reads back what the request asks for, whatever the columns and fields are called.
-/

namespace FullText

/-- What a search brings of each document. -/
inductive Content where
  | whole
  | keyOnly
  | attributes (names : List String)

/-- What the arguments of a search tell. -/
structure SearchArguments where
  index : String
  query : String
  /-- The field that the documents are sorted by, and which way. -/
  sort : Option (String × Direction)
  /-- How many documents are left out, and how many are wanted at most. -/
  page : Option (Nat × Nat)
  content : Content

namespace ArgReader

/-- A number that is written out. -/
def numeral : ArgReader Nat := do
  match Decimal.readInt64? (← text) with
  | some (.ofNat n) => return n
  | _ => failure

/-- Texts with their number written in front of them. -/
def enumerated : ArgReader (List String) := do
  let args ← take (← numeral)
  (args.mapM Arg.text? : Option (List String))

def sortKey : ArgReader (String × Direction) := do
  return (← text, ← wordOf Direction.keyword [.asc, .desc])

def page : ArgReader (Nat × Nat) := do
  return (← numeral, ← numeral)

def content : ArgReader Content := do
  if ← flag "NOCONTENT" then return .keyOnly
  match ← optional "RETURN" enumerated with
  | some names => return .attributes names
  | none => return .whole

def search : ArgReader SearchArguments := do
  return {
    index := ← text
    query := ← text
    sort := ← optional "SORTBY" sortKey
    page := ← optional "LIMIT" page
    content := ← content }

end ArgReader

/-- Reads texts to the end as the arguments of a search. -/
def SearchArguments.read? (texts : List String) : Option SearchArguments :=
  match ArgReader.search.run (texts.map .text) with
  | some (told, []) => some told
  | _ => none

/-! ### What a request asks for -/

/-- A number cut off at the greatest integer of the store. -/
def saturated (n : Nat) : Nat :=
  min n Decimal.int64Max.toNat

namespace Request

/-- What a list of sort keys comes to: no order, or the field that the only one names. -/
inductive SortedBy (schema : Schema) : List SortKey → Option (String × Direction) → Prop where
  | unsorted : SortedBy schema [] none
  | field {sort : SortKey} {field : Field} (hfield : schema.resolve sort.column = .ok field) :
      SortedBy schema [sort] (some (field.name, sort.direction))

/-- The page of a request with an offset or a limit. -/
def askedPage (request : Request) (config : Config) : Option (Nat × Nat) :=
  if request.offset.isNone && request.limit.isNone then none
  else some (saturated (request.offset.getD 0), saturated (request.limit.getD config.maxResults))

/-- The content that a request asks for, in columns of the index. -/
def askedContent (request : Request) (schema : Schema) : Content :=
  if request.noContent then .keyOnly
  else
    match request.projection with
    | .all => .whole
    | .columns names => .attributes (names.map schema.bareColumn)

end Request

/-! ### Numbers and lists read back -/

theorem fits_saturated {n : Nat} : Decimal.fitsInt64 (saturated n : Nat) = true := by
  have hmin : Decimal.int64Min ≤ (saturated n : Nat) := by
    simp only [Decimal.int64Min]
    omega
  have hmax : ((saturated n : Nat) : Int) ≤ Decimal.int64Max := by
    simp only [saturated, Decimal.int64Max]
    omega
  rw [Decimal.fitsInt64, decide_eq_true hmin, decide_eq_true hmax, Bool.and_self]

theorem saturated_of_fits {n : Nat} (hfits : (n : Int) ≤ Decimal.int64Max) : saturated n = n := by
  simp only [saturated, Decimal.int64Max] at hfits ⊢
  omega

theorem wireText_count (n : Nat) :
    (Arg.count n).wireText = toString ((saturated n : Nat) : Int) := by
  have hcount : min (n : Int) Decimal.int64Max = (saturated n : Nat) := by
    simp only [saturated, Decimal.int64Max]
    omega
  rw [Arg.count, Arg.wireText, hcount]

namespace ArgReader

/-- Arguments as they go to the store. -/
def spelled (args : List Arg) : List Arg :=
  args.map fun arg => .text arg.wireText

theorem spelled_append (args more : List Arg) :
    spelled (args ++ more) = spelled args ++ spelled more :=
  List.map_append

theorem spelled_texts (texts : List String) : spelled (texts.map .text) = texts.map .text := by
  rw [spelled, List.map_map]
  rfl

variable {rest : List Arg}

theorem run_numeral (n : Nat) :
    numeral.run (.text (Arg.count n).wireText :: rest) = some (saturated n, rest) := by
  rw [numeral, run_bind (run_text _), wireText_count, Decimal.readInt64?_toString fits_saturated]
  rfl

theorem run_enumerated (texts : List String) (hlength : (texts.length : Int) ≤ Decimal.int64Max) :
    enumerated.run (.text (Arg.count texts.length).wireText :: texts.map .text ++ rest) =
      some (texts, rest) := by
  rw [List.cons_append, enumerated, run_bind (run_numeral texts.length),
    saturated_of_fits hlength, run_bind (run_take_texts texts), mapM_text?]
  rfl

theorem run_page (offset count : Nat) :
    page.run (.text (Arg.count offset).wireText :: .text (Arg.count count).wireText :: rest) =
      some ((saturated offset, saturated count), rest) := by
  rw [page, run_bind (run_numeral offset), run_bind (run_numeral count)]
  rfl

theorem run_sortKey (name : String) (direction : Direction) :
    sortKey.run (.text name :: .text direction.keyword :: rest) =
      some ((name, direction), rest) := by
  have hfind : ([.asc, .desc].find? fun choice => Direction.keyword choice == direction.keyword) =
      some direction := by
    cases direction <;> decide
  rw [sortKey, run_bind (run_text name), run_bind (run_wordOf _ _ _ hfind)]
  rfl

/-! ### Directives read back -/

variable (schema : Schema) (config : Config) (request : Request)

theorem run_sort {sorts : List SortKey} {tokens : List Arg}
    (htokens : Request.sortTokens schema sorts = .ok tokens) (hrest : Avoids "SORTBY" rest) :
    ∃ sort, Request.SortedBy schema sorts sort ∧
      (optional "SORTBY" sortKey).run (spelled tokens ++ rest) = some (sort, rest) := by
  match sorts with
  | [] =>
      cases htokens
      exact ⟨none, .unsorted, run_optional_absent "SORTBY" sortKey hrest⟩
  | [sort] =>
      obtain ⟨field, hfield, htokens⟩ := bind_eq_ok_iff.mp htokens
      cases htokens
      refine ⟨some (field.name, sort.direction), .field hfield, ?_⟩
      exact run_optional_present "SORTBY" (run_sortKey field.name sort.direction)
  | _ :: _ :: _ => cases htokens

theorem run_optional_page (hrest : Avoids "LIMIT" rest) :
    (optional "LIMIT" page).run
        (spelled (Request.pageTokens config request.offset request.limit) ++ rest) =
      some (request.askedPage config, rest) := by
  unfold Request.askedPage
  match request.offset, request.limit with
  | none, none => exact run_optional_absent "LIMIT" page hrest
  | none, some limit => exact run_optional_present "LIMIT" (run_page 0 limit)
  | some offset, none => exact run_optional_present "LIMIT" (run_page offset config.maxResults)
  | some offset, some limit => exact run_optional_present "LIMIT" (run_page offset limit)

theorem run_content (hcolumns : ∀ names, request.projection = .columns names →
      (names.length : Int) ≤ Decimal.int64Max) :
    content.run (spelled (request.contentTokens schema)) =
      some (request.askedContent schema, []) := by
  unfold Request.contentTokens Request.askedContent
  split
  case isTrue => rfl
  case isFalse =>
    cases hprojection : request.projection with
    | all => rfl
    | columns names =>
        have htokens : spelled (Request.projectionTokens schema (.columns names)) =
            .text "RETURN" :: (.text (Arg.count (names.map schema.bareColumn).length).wireText ::
              (names.map schema.bareColumn).map .text ++ []) := by
          rw [List.append_nil, ← spelled_texts, List.map_map, List.length_map]
          rfl
        rw [htokens, content, run_bind (run_flag_absent "NOCONTENT" (.text (by decide) _))]
        dsimp only
        rw [if_neg Bool.false_ne_true, run_bind (run_optional_present "RETURN"
          (run_enumerated _ (by simpa using hcolumns names hprojection)))]
        rfl

/-- The content tokens are none, or begin with a keyword of their own. -/
theorem avoids_content {word : String} (hkeys : "NOCONTENT" ≠ word)
    (hcolumns : "RETURN" ≠ word) : Avoids word (spelled (request.contentTokens schema)) := by
  unfold Request.contentTokens
  split
  case isTrue => exact .text hkeys _
  case isFalse =>
    cases request.projection with
    | all => exact .nil word
    | columns names => exact .text hcolumns _

theorem avoids_page {word : String} (hword : "LIMIT" ≠ word) (hrest : Avoids word rest) :
    Avoids word (spelled (Request.pageTokens config request.offset request.limit) ++ rest) := by
  match request.offset, request.limit with
  | none, none => exact hrest
  | none, some _ => exact .text hword _
  | some _, none => exact .text hword _
  | some _, some _ => exact .text hword _

end ArgReader

/-- The arguments of a search determine what its request asks for. The columns are counted exactly
when they are no more than the greatest integer of the store, which no list in memory is. -/
theorem selectCommand_read? {schema : Schema} {config : Config} {request : Request}
    {command : Command} (hselect : request.selectCommand schema config = .ok command)
    (hcolumns : ∀ names, request.projection = .columns names →
      (names.length : Int) ≤ Decimal.int64Max) :
    ∃ query sort, Query.ofClauses schema config request.clauses = .ok query ∧
      Request.SortedBy schema request.sorts sort ∧
      SearchArguments.read? command.argTexts = some {
        index := schema.name
        query := query.text
        sort
        page := request.askedPage config
        content := request.askedContent schema } := by
  obtain ⟨query, hquery, hselect⟩ := bind_eq_ok_iff.mp hselect
  obtain ⟨sortTokens, hsort, rfl⟩ := bind_pure_eq_ok_iff.mp hselect
  -- From the back to the front: each directive that may be missing is followed by a later one.
  have hcontent := ArgReader.run_content schema request hcolumns
  have hpage := ArgReader.run_optional_page config request
    (ArgReader.avoids_content schema request (by decide) (by decide))
  obtain ⟨sort, hsorted, hsortRead⟩ := ArgReader.run_sort schema hsort
    (ArgReader.avoids_page config request (by decide)
      (ArgReader.avoids_content schema request (by decide) (by decide)))
  have htexts : (Request.searchCommand schema query (sortTokens ++
        Request.pageTokens config request.offset request.limit ++
        request.contentTokens schema)).argTexts.map Arg.text =
      .text schema.name :: .text query.text :: (ArgReader.spelled sortTokens ++
        (ArgReader.spelled (Request.pageTokens config request.offset request.limit) ++
          ArgReader.spelled (request.contentTokens schema))) := by
    rw [← ArgReader.spelled_append, ← ArgReader.spelled_append, ← List.append_assoc]
    exact List.map_map
  refine ⟨query, sort, hquery, hsorted, ?_⟩
  rw [SearchArguments.read?, htexts, ArgReader.search,
    ArgReader.run_bind (ArgReader.run_text schema.name),
    ArgReader.run_bind (ArgReader.run_text query.text), ArgReader.run_bind hsortRead,
    ArgReader.run_bind hpage, ArgReader.run_bind hcontent]
  rfl

/-- An index whose fields are called like the directives of a search. -/
def directiveFields : Schema where
  name := "SORTBY"
  fields := [.text "RETURN", .numeric "LIMIT"]

/-- A request that skips more documents than the store can count. -/
def wordyRequest : Request where
  index := "SORTBY"
  sorts := [{ column := "SORTBY.LIMIT", direction := .desc }]
  offset := some (UInt64.size - 1)
  projection := .columns ["SORTBY.LIMIT", "NOCONTENT", "RETURN"]

theorem wordyRequest_read? :
    ∃ command, wordyRequest.selectCommand directiveFields {} = .ok command ∧
      SearchArguments.read? command.argTexts = some {
        index := "SORTBY"
        query := "*"
        sort := some ("LIMIT", .desc)
        page := some (Decimal.int64Max.toNat, 10000)
        content := .attributes ["LIMIT", "NOCONTENT", "RETURN"] } := by
  have hselect : ∃ command, wordyRequest.selectCommand directiveFields {} = .ok command :=
    ⟨_, rfl⟩
  obtain ⟨command, hselect⟩ := hselect
  have hcolumns : ∀ names, wordyRequest.projection = .columns names →
      (names.length : Int) ≤ Decimal.int64Max := by
    rintro names ⟨⟩
    decide
  obtain ⟨query, sort, hquery, hsort, hread⟩ := selectCommand_read? hselect hcolumns
  cases hquery
  cases hsort with
  | field hfield =>
    cases hfield
    refine ⟨command, hselect, hread.trans ?_⟩
    rfl

end FullText
