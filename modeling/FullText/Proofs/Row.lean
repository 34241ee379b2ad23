import FullText.Proofs.OrderedMap.History
import FullText.Proofs.Write.Entries

/-!
Rows as they are made. Attributes are put into a row and taken out of it in any order, and the row
keeps them by their names: each name once, with the value that was put last, in the order in which
the names came.
-/

namespace FullText

namespace Row

/-- A row is what changes have made of an empty one, for whoever reads it, goes on changing it or
writes it to a document. -/
structure MadeBy (row : Row) (changes : List (OrderedMap.Change Value)) : Prop
    extends OrderedMap.Follows row changes where
  names_nodup : row.names.Nodup
  exists_cameAt : ∀ name ∈ row.names, ∃ place, OrderedMap.CameAt changes name place
  entries_put_of_new : ∀ name value, name ∉ row.names →
    (row.put name value).entries = row.entries ++ [(name, value)]
  /-- A value that replaces another one takes its place. -/
  entries_put_of_split : ∀ before name old after value,
    row.entries = before ++ (name, old) :: after →
      (row.put name value).entries = before ++ (name, value) :: after
  /-- Whoever takes an attribute out gets what was to be read there. -/
  take_eq : ∀ name, row.take name = (row.get? name, row.erase name)
  /-- The others are left as they were, in their order. -/
  get?_take : ∀ name other, (row.take name).2.get? other =
    if name = other then none else row.get? other
  names_take : ∀ name, (row.take name).2.names = row.names.filter (· != name)
  length_pairs : ∀ nullSentinel, (Row.pairs nullSentinel row).length = 2 * row.names.length
  /-- Each name is followed by the text of what is under it. -/
  pairs_at : ∀ nullSentinel k name, row.names[k]? = some name → ∃ value,
    row.get? name = some value ∧ (Row.pairs nullSentinel row)[2 * k]? = some name ∧
      (Row.pairs nullSentinel row)[2 * k + 1]? = some (value.wireText nullSentinel)

theorem pairs_of_name {row : Row} {k : Nat} {name : String} (hname : row.names[k]? = some name)
    (nullSentinel : String) : ∃ value,
      row.get? name = some value ∧ (Row.pairs nullSentinel row)[2 * k]? = some name ∧
        (Row.pairs nullSentinel row)[2 * k + 1]? = some (value.wireText nullSentinel) := by
  rw [OrderedMap.names, List.getElem?_map] at hname
  obtain ⟨⟨_, value⟩, hentry, rfl⟩ := Option.map_eq_some_iff.mp hname
  obtain ⟨hfirst, hsecond⟩ := Row.getElem?_pairs nullSentinel row k
  rw [hentry] at hfirst hsecond
  exact ⟨value, OrderedMap.get?_of_mem (List.mem_of_getElem? hentry), hfirst, hsecond⟩

/-- Whatever is put into an empty row and taken out again, the row keeps what is left in the order
in which the names came. -/
theorem insertion_order_kept (changes : List (OrderedMap.Change Value)) :
    MadeBy (OrderedMap.afterAll changes) changes where
  toFollows := OrderedMap.afterAll_follows changes
  names_nodup := OrderedMap.names_nodup _
  exists_cameAt name hname := by
    rw [(OrderedMap.afterAll_follows changes).mem_names_iff_present] at hname
    exact OrderedMap.present_iff_exists_cameAt.mp hname
  entries_put_of_new _ value hnew := OrderedMap.entries_put_of_new hnew value
  entries_put_of_split _ _ _ _ value hsplit := OrderedMap.entries_put_of_split hsplit value
  take_eq := OrderedMap.take_eq _
  get?_take name other := by
    rw [OrderedMap.take_eq]
    exact OrderedMap.get?_erase _ name other
  names_take name := by
    rw [OrderedMap.take_eq]
    exact OrderedMap.names_erase _ name
  length_pairs nullSentinel := by
    rw [Row.length_pairs, OrderedMap.size, OrderedMap.names, List.length_map]
  pairs_at nullSentinel _ _ hname := pairs_of_name hname nullSentinel

example :
    Row.pairs "_null_" (.afterAll [.put "name" .null, .put "age" (.int 35), .put "city" .null,
      .put "age" (.int 36), .take "name", .put "name" (.text "Ada")]) =
        ["age", "36", "city", "_null_", "name", "Ada"] := by
  cbv

end Row

end FullText
