import FullText.Proofs.Except
import FullText.Proofs.OrderedMap
import FullText.SearchResults

/-!
Search replies taken apart. A reply that is understood is an array of the total and of one hit after
another, and a hit is a key with or without an array of names and values after it. What tells the two
kinds of hits apart is one item ahead: an array is never a key, so no reply has two readings.
-/

namespace FullText

/-! ### The layout of a search reply -/

namespace Reply

/-- The text of a reply where a key or a name is expected. Numbers are written out. -/
inductive Spells : Reply → String → Prop where
  | status (s : String) : Spells (.status s) s
  | bulk (s : String) : Spells (.bulk s) s
  | int (n : Int) : Spells (.int n) (toString n)
  | double (x : Float) : Spells (.double x) (Decimal.text x)

/-- A natural number, told as an integer or as a text that is read as one. -/
inductive Counts : Reply → Nat → Prop where
  | int (n : Nat) : Counts (.int n) n
  | status {s : String} {n : Nat} (hread : Decimal.readInt64? s = some n) : Counts (.status s) n
  | bulk {s : String} {n : Nat} (hread : Decimal.readInt64? s = some n) : Counts (.bulk s) n

end Reply

/-- A hit in a search reply: the key of a document and, if its contents came along, their names and
values. -/
structure Hit where
  key : Reply
  contents : Option (List (Reply × Reply))

namespace Hit

/-- Names and values by turns. -/
def flat (pairs : List (Reply × Reply)) : List Reply :=
  pairs.flatMap fun (name, value) => [name, value]

/-- The items that a hit takes up in a reply. -/
def items (hit : Hit) : List Reply :=
  match hit.contents with
  | none => [hit.key]
  | some pairs => [hit.key, .array (flat pairs)]

/-- The names and values that came along. -/
def pairs (hit : Hit) : List (Reply × Reply) :=
  hit.contents.getD []

/-- The key has a text, and so have the names. -/
def Legible (hit : Hit) : Prop :=
  (∃ key, hit.key.Spells key) ∧ ∀ pair ∈ hit.pairs, ∃ name, pair.1.Spells name

/-- An attribute has the text of a name and the value beside it. -/
def Gives (nullSentinel : String) (pair : Reply × Reply) (field : String × Option String) : Prop :=
  pair.1.Spells field.1 ∧ Document.fieldValue nullSentinel pair.2 = field.2

/-- A document has the text of the key and one attribute for each name, in their order. -/
def Describes (nullSentinel : String) (hit : Hit) (document : Document) : Prop :=
  hit.key.Spells document.key ∧ List.Forall₂ (Gives nullSentinel) hit.pairs document.fields

end Hit

/-! ### Texts and totals -/

theorem Reply.text?_eq_some_iff {reply : Reply} {text : String} :
    reply.text? = some text ↔ reply.Spells text := by
  constructor
  · intro htext
    cases reply with
    | status _ => cases htext; exact .status _
    | bulk _ => cases htext; exact .bulk _
    | int n => cases htext; exact .int n
    | double x => cases htext; exact .double x
    | nil | ok | bool _ | array _ | error _ => cases htext
  · intro hspells
    cases hspells <;> rfl

theorem Reply.not_spells {reply : Reply} (hnone : reply.text? = none) (text : String) :
    ¬reply.Spells text := by
  rw [← text?_eq_some_iff, hnone]
  exact nofun

theorem Reply.spells_iff {reply : Reply} {text other : String} (htext : reply.text? = some text) :
    reply.Spells other ↔ text = other := by
  rw [← text?_eq_some_iff, htext, Option.some.injEq]

/-- An array is neither a key nor a name. -/
theorem Reply.Spells.not_array {items : List Reply} {text : String} :
    ¬Spells (.array items) text :=
  nofun

theorem SearchResults.totalOf_eq_ok_iff {reply : Reply} {total : Nat} :
    totalOf reply = .ok total ↔ reply.Counts total := by
  have htold : totalOf reply = .ok total ↔ reply.toInt? = some (total : Int) := by
    unfold totalOf
    split
    case h_1 n hint =>
      rw [hint, Except.ok.injEq, Option.some.injEq]
      exact Int.ofNat_inj.symm
    case h_2 hnot => exact iff_of_false nofun fun hint => hnot total hint
  rw [htold]
  constructor
  · intro hint
    cases reply with
    | int n => cases hint; exact .int total
    | status _ => exact .status hint
    | bulk _ => exact .bulk hint
    | nil | ok | double _ | bool _ | array _ | error _ => cases hint
  · intro hcounts
    cases hcounts with
    | int => rfl
    | status hread => exact hread
    | bulk hread => exact hread

/-! ### Documents -/

/-- Exactly the legible hits are documents. -/
theorem Hit.exists_describes_iff {nullSentinel : String} {hit : Hit} :
    (∃ document, hit.Describes nullSentinel document) ↔ hit.Legible := by
  have hgives : ∀ pair : Reply × Reply,
      (∃ field, Gives nullSentinel pair field) ↔ ∃ name, pair.1.Spells name := by
    intro pair
    constructor
    · rintro ⟨field, hname, -⟩
      exact ⟨field.1, hname⟩
    · rintro ⟨name, hname⟩
      exact ⟨(name, _), hname, rfl⟩
  simp only [Legible, ← hgives, ← exists_forall₂_iff]
  constructor
  · rintro ⟨document, hkey, hfields⟩
    exact ⟨⟨document.key, hkey⟩, document.fields, hfields⟩
  · rintro ⟨⟨key, hkey⟩, fields, hfields⟩
    exact ⟨{ key, fields }, hkey, hfields⟩

theorem Hit.exists_documents_iff {nullSentinel : String} {hits : List Hit} :
    (∃ documents, List.Forall₂ (Describes nullSentinel) hits documents) ↔
      ∀ hit ∈ hits, hit.Legible := by
  simp only [exists_forall₂_iff, exists_describes_iff]

theorem Hit.exists_flat : ∀ items : List Reply, items.length % 2 = 0 → ∃ pairs, items = flat pairs
  | [], _ => ⟨[], rfl⟩
  | [_], heven => absurd heven (by simp)
  | name :: value :: rest, heven => by
      rw [List.length_cons, List.length_cons, Nat.add_assoc, Nat.add_mod_right] at heven
      obtain ⟨pairs, hrest⟩ := exists_flat rest heven
      exact ⟨(name, value) :: pairs, by rw [hrest]; rfl⟩

namespace Document

variable {nullSentinel : String}

theorem fieldsOf_eq_ok_iff {pairs : List (Reply × Reply)}
    {fields : List (String × Option String)} :
    fieldsOf nullSentinel (Hit.flat pairs) = .ok fields ↔
      List.Forall₂ (Hit.Gives nullSentinel) pairs fields := by
  induction pairs generalizing fields with
  | nil =>
      rw [List.forall₂_nil_left_iff]
      constructor
      · intro hread
        exact (Except.ok.inj hread).symm
      · rintro rfl
        rfl
  | cons pair pairs ih =>
      obtain ⟨name, value⟩ := pair
      change fieldsOf nullSentinel (name :: value :: Hit.flat pairs) = _ ↔ _
      rw [fieldsOf, List.forall₂_cons_left_iff]
      cases hname : name.text? with
      | none =>
          refine iff_of_false nofun ?_
          rintro ⟨field, more, ⟨hspells, -⟩, -⟩
          exact Reply.not_spells hname _ hspells
      | some text =>
          dsimp only
          rw [bind_pure_eq_ok_iff]
          constructor
          · rintro ⟨more, hmore, rfl⟩
            exact ⟨_, more, ⟨Reply.text?_eq_some_iff.mp hname, rfl⟩, ih.mp hmore, rfl⟩
          · rintro ⟨field, more, ⟨hspells, hvalue⟩, hmore, rfl⟩
            refine ⟨more, ih.mpr hmore, ?_⟩
            rw [(Reply.spells_iff hname).mp hspells, hvalue]

theorem ofPairs_eq_ok_iff {key : String} {items : List Reply} {document : Document} :
    ofPairs key items nullSentinel = .ok document ↔ ∃ pairs, items = Hit.flat pairs ∧
      document.key = key ∧ List.Forall₂ (Hit.Gives nullSentinel) pairs document.fields := by
  constructor
  · intro hread
    unfold ofPairs at hread
    by_cases heven : items.length % 2 = 0
    · rw [if_neg (not_not.mpr heven)] at hread
      obtain ⟨fields, hfields, rfl⟩ := bind_pure_eq_ok_iff.mp hread
      obtain ⟨pairs, rfl⟩ := Hit.exists_flat items heven
      exact ⟨pairs, rfl, rfl, fieldsOf_eq_ok_iff.mp hfields⟩
    · rw [if_pos heven] at hread
      cases hread
  · rintro ⟨pairs, rfl, rfl, hfields⟩
    have heven : (Hit.flat pairs).length % 2 = 0 := by
      rw [Hit.flat, length_flat, Nat.mul_mod_right]
    rw [ofPairs, if_neg (not_not.mpr heven)]
    exact bind_pure_eq_ok_iff.mpr ⟨_, fieldsOf_eq_ok_iff.mpr hfields, rfl⟩

end Document

namespace SearchResults

variable {nullSentinel : String} {item : Reply} {rest : List Reply} {documents : List Document}

/-- One step of the reader where contents come after the key. -/
theorem documentsOf_full {attributes : List Reply} :
    documentsOf nullSentinel (item :: .array attributes :: rest) = .ok documents ↔
      ∃ document more, (∃ pairs, attributes = Hit.flat pairs ∧
        Hit.Describes nullSentinel { key := item, contents := some pairs } document) ∧
        documentsOf nullSentinel rest = .ok more ∧ document :: more = documents := by
  rw [documentsOf]
  cases hkey : item.text? with
  | none =>
      refine iff_of_false nofun ?_
      rintro ⟨document, more, ⟨pairs, -, hspells, -⟩, -⟩
      exact Reply.not_spells hkey _ hspells
  | some key =>
      dsimp only
      rw [bind_eq_ok_iff]
      refine exists_congr fun document => ?_
      rw [bind_pure_eq_ok_iff, Document.ofPairs_eq_ok_iff, exists_and_left]
      refine and_congr_left fun _ => exists_congr fun pairs => and_congr_right fun _ => ?_
      rw [Hit.Describes, Reply.spells_iff hkey, eq_comm]
      rfl

/-- One step of the reader where no contents come after the key. -/
theorem documentsOf_bare (hbare : ∀ attributes left, rest ≠ .array attributes :: left) :
    documentsOf nullSentinel (item :: rest) = .ok documents ↔
      ∃ document more, Hit.Describes nullSentinel { key := item, contents := none } document ∧
        documentsOf nullSentinel rest = .ok more ∧ document :: more = documents := by
  rw [documentsOf.eq_3 _ _ _ hbare]
  cases hkey : item.text? with
  | none =>
      refine iff_of_false nofun ?_
      rintro ⟨document, more, ⟨hspells, -⟩, -⟩
      exact Reply.not_spells hkey _ hspells
  | some key =>
      dsimp only
      rw [bind_pure_eq_ok_iff]
      constructor
      · rintro ⟨more, hmore, rfl⟩
        exact ⟨_, more, ⟨Reply.text?_eq_some_iff.mp hkey, .nil⟩, hmore, rfl⟩
      · rintro ⟨⟨other, fields⟩, more, ⟨hspells, hfields⟩, hmore, rfl⟩
        cases (Reply.spells_iff hkey).mp hspells
        cases hfields
        exact ⟨more, hmore, rfl⟩

/-- The items of legible hits do not begin with an array, so that a key before them is not taken to
have contents. -/
theorem flatMap_items_ne_array {hits : List Hit} (hlegible : ∀ hit ∈ hits, hit.Legible)
    (attributes left : List Reply) : hits.flatMap Hit.items ≠ .array attributes :: left := by
  cases hits with
  | nil => exact nofun
  | cons hit hits =>
      obtain ⟨⟨key, hspells⟩, -⟩ := hlegible hit List.mem_cons_self
      intro harray
      have hkey : hit.key = .array attributes := by
        rcases hit with ⟨item, _ | pairs⟩ <;> exact (List.cons.inj harray).1
      rw [hkey] at hspells
      exact hspells.not_array

/-- What is read is one document for each hit, in their order. -/
theorem documentsOf_eq_ok_iff {items : List Reply} :
    documentsOf nullSentinel items = .ok documents ↔ ∃ hits : List Hit,
      items = hits.flatMap Hit.items ∧ List.Forall₂ (Hit.Describes nullSentinel) hits documents := by
  constructor
  · intro hread
    induction items using documentsOf.induct generalizing documents with
    | case1 =>
        cases hread
        exact ⟨[], rfl, .nil⟩
    | case2 item attributes rest _ _ ih =>
        obtain ⟨document, more, ⟨pairs, rfl, hdocument⟩, hmore, rfl⟩ := documentsOf_full.mp hread
        obtain ⟨hits, rfl, hhits⟩ := ih hmore
        exact ⟨{ key := item, contents := some pairs } :: hits, rfl, .cons hdocument hhits⟩
    | case3 item attributes rest hnot =>
        obtain ⟨document, more, ⟨pairs, -, hspells, -⟩, -⟩ := documentsOf_full.mp hread
        exact (hnot _ (Reply.text?_eq_some_iff.mpr hspells)).elim
    | case4 item rest hbare _ _ ih =>
        obtain ⟨document, more, hdocument, hmore, rfl⟩ := (documentsOf_bare hbare).mp hread
        obtain ⟨hits, rfl, hhits⟩ := ih hmore
        exact ⟨{ key := item, contents := none } :: hits, rfl, .cons hdocument hhits⟩
    | case5 item rest hbare hnot =>
        obtain ⟨document, more, ⟨hspells, -⟩, -⟩ := (documentsOf_bare hbare).mp hread
        exact (hnot _ (Reply.text?_eq_some_iff.mpr hspells)).elim
  · rintro ⟨hits, rfl, hdescribes⟩
    induction hdescribes with
    | nil => rfl
    | @cons hit document hits documents hdocument hdocuments ih =>
        obtain ⟨item, _ | pairs⟩ := hit
        · have hlegible := Hit.exists_documents_iff.mp ⟨documents, hdocuments⟩
          have hbare := flatMap_items_ne_array hlegible
          exact (documentsOf_bare hbare).mpr ⟨document, documents, hdocument, ih, rfl⟩
        · exact documentsOf_full.mpr ⟨document, documents, ⟨pairs, rfl, hdocument⟩, ih, rfl⟩

theorem ofReply_eq_ok_iff {reply : Reply} {results : SearchResults} :
    ofReply reply nullSentinel = .ok results ↔ ∃ (first : Reply) (hits : List Hit),
      reply = .array (first :: hits.flatMap Hit.items) ∧ first.Counts results.total ∧
        List.Forall₂ (Hit.Describes nullSentinel) hits results.documents := by
  constructor
  · intro hread
    unfold ofReply at hread
    split at hread
    case h_1 => cases hread
    case h_2 first rest =>
      obtain ⟨total, htotal, hread⟩ := bind_eq_ok_iff.mp hread
      obtain ⟨documents, hdocuments, rfl⟩ := bind_pure_eq_ok_iff.mp hread
      obtain ⟨hits, rfl, hhits⟩ := documentsOf_eq_ok_iff.mp hdocuments
      exact ⟨first, hits, rfl, totalOf_eq_ok_iff.mp htotal, hhits⟩
    case h_3 => cases hread
  · rintro ⟨first, hits, rfl, htotal, hhits⟩
    have hdocuments := documentsOf_eq_ok_iff.mpr ⟨hits, rfl, hhits⟩
    exact bind_eq_ok_iff.mpr ⟨_, totalOf_eq_ok_iff.mpr htotal,
      bind_pure_eq_ok_iff.mpr ⟨_, hdocuments, rfl⟩⟩

theorem countOfReply_of_counts {first : Reply} {total : Nat} (hcounts : first.Counts total)
    (rest : List Reply) : countOfReply (.array (first :: rest)) = .ok total :=
  totalOf_eq_ok_iff.mpr hcounts

/-- A search reply is read exactly if it is an array of a total and of legible hits. However it is
seen so, what is read is the total and one document for each hit, in their order, with the names that
came along; and counting the same reply gives the same total. -/
theorem search_reply_read (reply : Reply) (nullSentinel : String) :
    ((∃ results, ofReply reply nullSentinel = .ok results) ↔
      ∃ (first : Reply) (total : Nat) (hits : List Hit),
        reply = .array (first :: hits.flatMap Hit.items) ∧ first.Counts total ∧
          ∀ hit ∈ hits, hit.Legible) ∧
    ∀ (first : Reply) (total : Nat) (hits : List Hit),
      reply = .array (first :: hits.flatMap Hit.items) → first.Counts total →
      (∀ hit ∈ hits, hit.Legible) →
        (∃ documents, ofReply reply nullSentinel = .ok { total, documents } ∧
          List.Forall₂ (Hit.Describes nullSentinel) hits documents) ∧
        countOfReply reply = .ok total := by
  have hread : ∀ (first : Reply) (total : Nat) (hits : List Hit),
      reply = .array (first :: hits.flatMap Hit.items) → first.Counts total →
      (∀ hit ∈ hits, hit.Legible) → ∃ documents,
        ofReply reply nullSentinel = .ok { total, documents } ∧
          List.Forall₂ (Hit.Describes nullSentinel) hits documents := by
    intro first total hits hreply htotal hlegible
    obtain ⟨documents, hdocuments⟩ := Hit.exists_documents_iff.mpr hlegible
    exact ⟨documents, ofReply_eq_ok_iff.mpr ⟨first, hits, hreply, htotal, hdocuments⟩, hdocuments⟩
  refine ⟨⟨?_, ?_⟩, ?_⟩
  · rintro ⟨results, hresults⟩
    obtain ⟨first, hits, hreply, htotal, hhits⟩ := ofReply_eq_ok_iff.mp hresults
    exact ⟨first, results.total, hits, hreply, htotal,
      Hit.exists_documents_iff.mp ⟨results.documents, hhits⟩⟩
  · rintro ⟨first, total, hits, hreply, htotal, hlegible⟩
    obtain ⟨documents, hok, -⟩ := hread first total hits hreply htotal hlegible
    exact ⟨_, hok⟩
  · intro first total hits hreply htotal hlegible
    refine ⟨hread first total hits hreply htotal hlegible, ?_⟩
    rw [hreply]
    exact countOfReply_of_counts htotal _

/-- Two hits, of which only the first one came with its contents. -/
def mixedHits : List Hit := [
  { key := .bulk "books::1", contents := some [(.status "title", .bulk "Emma"), (.int 7, .nil)] },
  { key := .int 5, contents := none }]

theorem mixed_hits_read :
    (Reply.bulk "2").Counts 2 ∧ (∀ hit ∈ mixedHits, hit.Legible) ∧
      (∃ documents, ofReply (.array (.bulk "2" :: mixedHits.flatMap Hit.items)) "_null_" =
          .ok { total := 2, documents } ∧
        List.Forall₂ (Hit.Describes "_null_") mixedHits documents) ∧
      countOfReply (.array (.bulk "2" :: mixedHits.flatMap Hit.items)) = .ok 2 := by
  have htotal : (Reply.bulk "2").Counts 2 := .bulk (by decide)
  have hfirst : ∀ pair ∈ [(Reply.status "title", Reply.bulk "Emma"), (.int 7, .nil)],
      ∃ name, pair.1.Spells name := by
    rintro pair (_ | ⟨_, _ | ⟨_, ⟨⟩⟩⟩)
    · exact ⟨_, .status _⟩
    · exact ⟨_, .int _⟩
  have hlegible : ∀ hit ∈ mixedHits, hit.Legible := by
    rintro hit (_ | ⟨_, _ | ⟨_, ⟨⟩⟩⟩)
    · exact ⟨⟨_, .bulk _⟩, hfirst⟩
    · exact ⟨⟨_, .int _⟩, nofun⟩
  exact ⟨htotal, hlegible,
    (search_reply_read (.array (.bulk "2" :: mixedHits.flatMap Hit.items)) "_null_").2 _ _ _ rfl
      htotal hlegible⟩

example :
    ofReply (.array [.bulk "2", .bulk "books::1", .array [.status "title", .bulk "Emma", .int 7, .nil],
        .int 5]) "_null_" =
      .ok { total := 2, documents := [
        { key := "books::1", fields := [("title", some "Emma"), ("7", none)] },
        { key := "5", fields := [] }] } := by
  rfl

end SearchResults

end FullText
