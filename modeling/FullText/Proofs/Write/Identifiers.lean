import FullText.Proofs.Except
import FullText.Proofs.OrderedMap
import FullText.Row

/-!
The attributes that place a row. An attribute names something if its value stands for a scalar whose
text is not empty; rows are written without the attributes that place them, and of several rows the
first one in which nothing is named is refused.
-/

namespace FullText

namespace Row

/-- An attribute names something: its value stands for a scalar, and the text of that is not
empty. -/
def Names (row : Row) (name text : String) : Prop :=
  ∃ value, row.get? name = some value ∧ value.render? = some text ∧ text ≠ ""

theorem identifier?_eq_some_iff {row : Row} {name text : String} :
    identifier? row name = some text ↔ Names row name text := by
  rw [identifier?, Option.filter_eq_some_iff, Option.bind_eq_some_iff, bne_iff_ne]
  constructor
  · rintro ⟨⟨value, hvalue, htext⟩, hne⟩
    exact ⟨value, hvalue, htext, hne⟩
  · rintro ⟨value, hvalue, htext, hne⟩
    exact ⟨⟨value, hvalue, htext⟩, hne⟩

theorem exists_names_iff {row : Row} {name : String} :
    (∃ text, Names row name text) ↔ (identifier? row name).isSome := by
  simp only [Option.isSome_iff_exists, identifier?_eq_some_iff]

theorem identifier?_eq_none_iff {row : Row} {name : String} :
    identifier? row name = none ↔ ∀ text, ¬Names row name text := by
  simp only [Option.eq_none_iff_forall_ne_some, ne_eq, identifier?_eq_some_iff]

/-- The row without some of its attributes. -/
def without (row : Row) (names : List String) : Row :=
  { entries := row.entries.filter fun entry => entry.1 ∉ names
    distinct := OrderedMap.distinct_of_sublist List.filter_sublist row.distinct }

theorem without_singleton (row : Row) (name : String) :
    without row [name] = row.erase name := by
  refine OrderedMap.ext (List.filter_congr fun entry _ => ?_)
  rw [Bool.eq_iff_iff]
  simp

theorem without_cons (row : Row) (name : String) (names : List String) :
    without row (name :: names) = without (row.erase name) names := by
  refine OrderedMap.ext (Eq.trans ?_ List.filter_filter.symm)
  refine List.filter_congr fun entry _ => ?_
  rw [Bool.eq_iff_iff]
  simp [and_comm]

/-- A row has one attribute less without one that it has. -/
theorem size_erase {row : Row} {name : String} (hname : name ∈ row.names) :
    (row.erase name).size = row.size - 1 := by
  have hlength (row : Row) : row.size = row.names.length := (List.length_map _).symm
  rw [hlength, hlength, OrderedMap.names_erase_eq_erase, List.length_erase_of_mem hname]

theorem Names.mem_names {row : Row} {name text : String} (hnames : Names row name text) :
    name ∈ row.names := by
  obtain ⟨value, hvalue, -⟩ := hnames
  rw [OrderedMap.mem_names_iff, hvalue]
  rfl

end Row

/-- The position of the first row in which an attribute names nothing. -/
def FirstUnnamed (name : String) (rows : List Row) (position : Nat) : Prop :=
  ∃ before row after, rows = before ++ row :: after ∧ position = before.length ∧
    (∀ earlier ∈ before, ∃ text, Row.Names earlier name text) ∧
    ∀ text, ¬Row.Names row name text

/-- The first row in which nothing is named, by its position. -/
theorem FirstUnnamed.of_findIdx? {name : String} {rows : List Row} {first : Nat}
    (hfirst : rows.findIdx? (fun row => (Row.identifier? row name).isNone) = some first) :
    FirstUnnamed name rows first := by
  obtain ⟨hlt, hnone, hearlier⟩ := List.findIdx?_eq_some_iff_getElem.mp hfirst
  refine ⟨rows.take first, rows[first], rows.drop (first + 1), ?_, ?_, ?_, ?_⟩
  · rw [← List.drop_eq_getElem_cons hlt, List.take_append_drop]
  · rw [List.length_take_of_le (Nat.le_of_lt hlt)]
  · intro earlier hmem
    obtain ⟨position, hposition, rfl⟩ := List.mem_take_iff_getElem.mp hmem
    rw [Row.exists_names_iff, ← Option.not_isNone, Bool.not_eq_true']
    exact eq_false_of_ne_true (hearlier position (by omega))
  · exact Row.identifier?_eq_none_iff.mp (Option.isNone_iff_eq_none.mp hnone)

/-- Rows that are read if an attribute of them names something are refused by the position of the
first one in which it names nothing. -/
theorem TellsPosition.firstUnnamed {ε β : Type} {f : Row × Nat → Except ε β} {name : String}
    {missing : Nat → ε}
    (htells : TellsPosition f (fun row => ∃ text, Row.Names row name text) missing)
    {rows : List Row} {e : ε} : rows.zipIdx.mapM f = .error e ↔
      ∃ position, FirstUnnamed name rows position ∧ e = missing position := by
  rw [htells.mapM_error_iff]
  constructor
  · rintro ⟨before, row, after, hrows, hbefore, hrow, he⟩
    exact ⟨_, ⟨before, row, after, hrows, rfl, hbefore, not_exists.mp hrow⟩, he⟩
  · rintro ⟨_, ⟨before, row, after, hrows, rfl, hbefore, hrow⟩, he⟩
    exact ⟨before, row, after, hrows, hbefore, not_exists.mpr hrow, he⟩

end FullText
