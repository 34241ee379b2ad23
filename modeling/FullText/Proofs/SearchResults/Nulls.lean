import FullText.Proofs.SearchResults

/-!
Nulls in decoded documents. Null is told by nothing or by the sentinel, but it is also read where a
value has no text: an acknowledgement, a truth value, an array or an error. No value keeps a
document from being decoded, so what such a value said is lost.
-/

namespace FullText

/-! ### Values -/

namespace Reply

/-- Null is told by nothing, or by a text that is the sentinel. -/
inductive TellsNull (nullSentinel : String) : Reply → Prop where
  | nothing : TellsNull nullSentinel .nil
  | sentinel {reply : Reply} (hspells : reply.Spells nullSentinel) : TellsNull nullSentinel reply

/-- A reply that says something, but has no text. -/
inductive Mute : Reply → Prop where
  | ok : Mute .ok
  | bool (b : Bool) : Mute (.bool b)
  | array (items : List Reply) : Mute (.array items)
  | error (message : String) : Mute (.error message)

variable {nullSentinel : String} {reply : Reply}

theorem text?_eq_none_iff : reply.text? = none ↔ reply = .nil ∨ reply.Mute := by
  constructor
  · intro hnone
    cases reply with
    | nil => exact .inl rfl
    | ok => exact .inr .ok
    | bool b => exact .inr (.bool b)
    | array items => exact .inr (.array items)
    | error message => exact .inr (.error message)
    | int | double | status | bulk => cases hnone
  · rintro (rfl | hmute)
    · rfl
    · cases hmute <;> rfl

/-- A reply without a text does not tell null. -/
theorem Mute.not_tellsNull (hmute : reply.Mute) : ¬reply.TellsNull nullSentinel := by
  intro hnull
  cases hnull with
  | nothing => cases hmute
  | sentinel hspells => exact not_spells (text?_eq_none_iff.mpr (.inr hmute)) _ hspells

end Reply

namespace Document

variable {nullSentinel : String} {value : Reply}

theorem fieldValue_eq_some_iff {text : String} :
    fieldValue nullSentinel value = some text ↔ value.Spells text ∧ text ≠ nullSentinel := by
  rw [fieldValue, Option.filter_eq_some_iff, Reply.text?_eq_some_iff, bne_iff_ne]

theorem fieldValue_eq_none_iff :
    fieldValue nullSentinel value = none ↔ value.TellsNull nullSentinel ∨ value.Mute := by
  rw [fieldValue]
  cases htext : value.text? with
  | none =>
      refine iff_of_true rfl ?_
      rcases Reply.text?_eq_none_iff.mp htext with rfl | hmute
      · exact .inl .nothing
      · exact .inr hmute
  | some text =>
      have hsentinel : (some text).filter (· != nullSentinel) = none ↔ text = nullSentinel := by
        simp
      rw [hsentinel]
      constructor
      · rintro rfl
        exact .inl (.sentinel (Reply.text?_eq_some_iff.mp htext))
      · rintro (hnull | hmute)
        · cases hnull with
          | nothing => cases htext
          | sentinel hspells => exact (Reply.spells_iff htext).mp hspells
        · rw [Reply.text?_eq_none_iff.mpr (.inr hmute)] at htext
          cases htext

end Document

/-! ### Attributes -/

namespace Hit

variable {nullSentinel : String} {pair : Reply × Reply} {field : String × Option String}

/-- What a name and a value are decoded to. -/
structure Decodes (nullSentinel : String) (pair : Reply × Reply)
    (field : String × Option String) : Prop where
  name : pair.1.Spells field.1
  null : field.2 = none ↔ pair.2.TellsNull nullSentinel ∨ pair.2.Mute
  text : ∀ text, field.2 = some text ↔ pair.2.Spells text ∧ text ≠ nullSentinel

/-- An attribute is null where its value tells null, and nowhere else. -/
def NullTold (nullSentinel : String) (pair : Reply × Reply) (field : String × Option String) :
    Prop :=
  field.2 = none ↔ pair.2.TellsNull nullSentinel

theorem Gives.decodes (hgives : Gives nullSentinel pair field) :
    Decodes nullSentinel pair field := by
  obtain ⟨hname, hvalue⟩ := hgives
  refine ⟨hname, ?_, fun text => ?_⟩
  · rw [← hvalue, Document.fieldValue_eq_none_iff]
  · rw [← hvalue, Document.fieldValue_eq_some_iff]

theorem Decodes.nullTold_iff (hdecodes : Decodes nullSentinel pair field) :
    NullTold nullSentinel pair field ↔ ¬pair.2.Mute := by
  rw [NullTold, hdecodes.null, or_iff_left_iff_imp]
  constructor
  · exact fun htold hmute => hmute.not_tellsNull (htold hmute)
  · exact fun hnot hmute => absurd hmute hnot

theorem flat_injective : Function.Injective flat := by
  intro pairs others hflat
  induction pairs generalizing others with
  | nil =>
      cases others with
      | nil => rfl
      | cons => cases hflat
  | cons pair pairs ih =>
      cases others with
      | nil => cases hflat
      | cons other others =>
          obtain ⟨hname, hflat⟩ := List.cons.inj hflat
          obtain ⟨hvalue, hflat⟩ := List.cons.inj hflat
          rw [Prod.ext hname hvalue, ih hflat]

theorem forall₂_nullTold_iff {pairs : List (Reply × Reply)}
    {fields : List (String × Option String)}
    (hdecodes : List.Forall₂ (Decodes nullSentinel) pairs fields) :
    List.Forall₂ (NullTold nullSentinel) pairs fields ↔ ∀ pair ∈ pairs, ¬pair.2.Mute := by
  induction hdecodes with
  | nil => simp
  | cons hfirst _ ih =>
      rw [List.forall₂_cons, List.forall_mem_cons, ih, hfirst.nullTold_iff]

end Hit

namespace Document

/-- Exactly the names decide whether a list of names and values is decoded. -/
theorem exists_ofPairs_iff {key nullSentinel : String} {items : List Reply} :
    (∃ document, ofPairs key items nullSentinel = .ok document) ↔
      ∃ pairs, items = Hit.flat pairs ∧ ∀ pair ∈ pairs, ∃ name, pair.1.Spells name := by
  constructor
  · rintro ⟨document, hread⟩
    obtain ⟨pairs, hitems, -, hfields⟩ := ofPairs_eq_ok_iff.mp hread
    refine ⟨pairs, hitems, fun pair hmem => ?_⟩
    obtain ⟨field, hname, -⟩ := exists_forall₂_iff.mp ⟨_, hfields⟩ pair hmem
    exact ⟨field.1, hname⟩
  · rintro ⟨pairs, rfl, hnames⟩
    have hgives : ∀ pair ∈ pairs, ∃ field, Hit.Gives nullSentinel pair field := by
      intro pair hmem
      obtain ⟨name, hname⟩ := hnames pair hmem
      exact ⟨(name, _), hname, rfl⟩
    obtain ⟨fields, hfields⟩ := exists_forall₂_iff.mpr hgives
    exact ⟨{ key, fields }, ofPairs_eq_ok_iff.mpr ⟨pairs, rfl, rfl, hfields⟩⟩

/-- A list of names and values is decoded whatever the values are. An attribute is null where its
value tells null, and also where the value has no text though it says something; else it is its
text. So null is read for nothing but null exactly if every value that says something has a text. -/
theorem null_decoded_iff (key nullSentinel : String) (items : List Reply) :
    ((∃ document, ofPairs key items nullSentinel = .ok document) ↔
      ∃ pairs, items = Hit.flat pairs ∧ ∀ pair ∈ pairs, ∃ name, pair.1.Spells name) ∧
    ∀ pairs document, items = Hit.flat pairs → ofPairs key items nullSentinel = .ok document →
      List.Forall₂ (Hit.Decodes nullSentinel) pairs document.fields ∧
        (List.Forall₂ (Hit.NullTold nullSentinel) pairs document.fields ↔
          ∀ pair ∈ pairs, ¬pair.2.Mute) := by
  refine ⟨exists_ofPairs_iff, fun pairs document hitems hread => ?_⟩
  obtain ⟨others, hothers, -, hgives⟩ := ofPairs_eq_ok_iff.mp hread
  obtain rfl : pairs = others := Hit.flat_injective (hitems.symm.trans hothers)
  have hdecodes := hgives.imp fun _ _ hfield => hfield.decodes
  exact ⟨hdecodes, Hit.forall₂_nullTold_iff hdecodes⟩

/-- A book with an unknown number, without a note, and with shelves. -/
def shelvedBook (shelves : Reply) : List (Reply × Reply) :=
  [(.bulk "title", .bulk "Emma"), (.bulk "isbn", .bulk "_null_"), (.bulk "note", .nil),
    (.bulk "shelves", shelves)]

/-- Shelves in a single text are kept. -/
theorem shelved_book_decoded :
    ∃ document,
      ofPairs "books::1" (Hit.flat (shelvedBook (.bulk "A,B"))) "_null_" = .ok document ∧
      document.fields =
        [("title", some "Emma"), ("isbn", none), ("note", none), ("shelves", some "A,B")] ∧
      List.Forall₂ (Hit.NullTold "_null_") (shelvedBook (.bulk "A,B")) document.fields := by
  obtain ⟨-, hdecoded⟩ :=
    null_decoded_iff "books::1" "_null_" (Hit.flat (shelvedBook (.bulk "A,B")))
  obtain ⟨-, htold⟩ := hdecoded _ _ rfl rfl
  refine ⟨_, rfl, rfl, htold.mpr ?_⟩
  simp only [shelvedBook, List.forall_mem_cons]
  exact ⟨nofun, nofun, nofun, nofun, nofun⟩

/-- Shelves in an array are read as null. -/
theorem shelves_lost :
    ofPairs "books::1" [.bulk "shelves", .array [.bulk "A", .bulk "B"]] "_null_" =
        .ok { key := "books::1", fields := [("shelves", none)] } ∧
      ¬(Reply.array [.bulk "A", .bulk "B"]).TellsNull "_null_" :=
  ⟨rfl, (Reply.Mute.array _).not_tellsNull⟩

end Document

end FullText
