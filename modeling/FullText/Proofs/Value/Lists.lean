import FullText.Proofs.Value
import Mathlib.Algebra.GroupWithZero.Nat
import Mathlib.Algebra.Order.BigOperators.Group.List
import Mathlib.Algebra.Order.Group.Nat

/-!
What is written for a list. The items that stand for null are left out, and so are those that stand
for a list themselves, since only a scalar has a text that can be joined. The lost items show in the
text: it is the joined text of all items that are not null exactly if none of them is a list, or if
the only one is written as the empty text.
-/

namespace FullText.Value

/-! ### Joined texts -/

/-- Texts that are joined take up one separator less than there are of them. -/
private theorem length_joined {texts : List String} (hne : texts ≠ []) :
    (String.intercalate listSeparator texts).length + 1 =
      (texts.map fun text => text.length + 1).sum := by
  induction texts with
  | nil => exact absurd rfl hne
  | cons text texts ih =>
      cases texts with
      | nil => simp
      | cons next texts =>
          rw [String.intercalate_cons_cons, List.map_cons, List.sum_cons,
            ← ih (List.cons_ne_nil next texts), String.length_append, String.length_append]
          have hseparator : listSeparator.length = 1 := rfl
          omega

private theorem eq_of_joined_eq_empty {texts : List String}
    (hjoined : String.intercalate listSeparator texts = "") : texts = [] ∨ texts = [""] := by
  cases texts with
  | nil => exact .inl rfl
  | cons first rest =>
      have hlength := length_joined (List.cons_ne_nil first rest)
      rw [hjoined, List.map_cons, List.sum_cons] at hlength
      cases rest with
      | nil => exact .inr (by simpa using hlength)
      | cons next rest => simp at hlength; omega

/-- Each text takes up the space of its separator at least, so texts of the same size have lost
none. -/
private theorem eq_of_sum_length_le {kept texts : List String} (hsublist : kept.Sublist texts)
    (hsum : (texts.map fun text => text.length + 1).sum ≤
      (kept.map fun text => text.length + 1).sum) : kept = texts := by
  induction hsublist with
  | slnil => rfl
  | cons text hsublist =>
      have hle := (hsublist.map fun text : String => text.length + 1).sum_le_sum (by simp)
      rw [List.map_cons, List.sum_cons] at hsum
      omega
  | cons_cons text _ ih =>
      simp only [List.map_cons, List.sum_cons, Nat.add_le_add_iff_left] at hsum
      rw [ih hsum]

/-- Leaving out some of the texts shows in the joined text, unless the only text is empty. -/
theorem joined_eq_joined_iff {kept texts : List String} (hsublist : kept.Sublist texts) :
    String.intercalate listSeparator kept = String.intercalate listSeparator texts ↔
      kept = texts ∨ texts = [""] := by
  constructor
  · intro hjoined
    by_cases hkept : kept = []
    · subst hkept
      exact (eq_of_joined_eq_empty hjoined.symm).imp_left Eq.symm
    · have htexts : texts ≠ [] := fun hnil => hkept (List.sublist_nil.mp (hnil ▸ hsublist))
      have hlength := length_joined htexts
      rw [← hjoined, length_joined hkept] at hlength
      exact .inl (eq_of_sum_length_le hsublist hlength.ge)
  · rintro (rfl | rfl)
    · rfl
    · rcases List.sublist_singleton.mp hsublist with rfl | rfl <;> rfl

/-! ### Items -/

/-- Whether the value is null, or a member of an enumeration that stands for it. -/
def standsForNull (v : Value) : Bool :=
  v.resolved.isNull

/-- Whether the value is a list, or a member of an enumeration that stands for one. -/
def standsForList (v : Value) : Bool :=
  match v.resolved with
  | .list _ => true
  | _ => false

/-- The items that stand for something else than null. -/
def told (items : List Value) : List Value :=
  items.filter (!·.standsForNull)

variable {v : Value}

theorem standsForNull_eq_false_iff : v.standsForNull = false ↔ v.resolved ≠ .null := by
  unfold standsForNull
  cases v.resolved <;> simp [isNull]

theorem standsForList_eq_true_iff :
    v.standsForList = true ↔ ∃ items, v.resolved = .list items := by
  unfold standsForList
  cases v.resolved <;> simp

/-- The text that is joined is the one that the item is written as, if it has any. -/
private theorem render?_eq_ite (nullSentinel : String) (v : Value) : v.render? =
    if !v.standsForNull && !v.standsForList then some (v.wireText nullSentinel) else none := by
  by_cases hnull : v.resolved = .null
  · rw [render?, standsForNull, hnull]
    rfl
  · obtain ⟨text, htext⟩ := exists_hasText v hnull
    rw [standsForNull_eq_false_iff.mpr hnull, htext.wireText_eq]
    cases htext with
    | scalar htext =>
        have hlist : v.standsForList = false := by
          rw [← Bool.not_eq_true, standsForList_eq_true_iff]
          rintro ⟨items, hitems⟩
          rw [render?, hitems] at htext
          cases htext
        rw [htext, hlist]
        rfl
    | list hlist =>
        rw [render?, hlist, standsForList_eq_true_iff.mpr ⟨_, hlist⟩]
        rfl

theorem wireText_list (nullSentinel : String) (items : List Value) :
    (list items).wireText nullSentinel = String.intercalate listSeparator
      (((told items).filter (!·.standsForList)).map (wireText nullSentinel)) := by
  have hrender : render? ∘ resolved = render? := funext render?_resolved
  have htexts : items.filterMap render? =
      ((told items).filter (!·.standsForList)).map (wireText nullSentinel) := by
    rw [told, List.filter_filter]
    induction items with
    | nil => rfl
    | cons item items ih =>
        rw [List.filterMap_cons, render?_eq_ite nullSentinel, List.filter_cons, ih]
        cases item.standsForNull <;> cases item.standsForList <;> rfl
  rw [wireText, resolved, resolvedItems_eq_map, ← htexts]
  show String.intercalate listSeparator ((items.map resolved).filterMap render?) = _
  rw [List.filterMap_map, hrender]

/-- What is told of a list has no list in it exactly if the list itself has none. -/
theorem filter_told_eq_iff {items : List Value} :
    (told items).filter (!·.standsForList) = told items ↔
      ∀ item ∈ items, item.standsForList = false := by
  rw [List.filter_eq_self]
  constructor
  · intro hscalar item hitem
    by_contra hlist
    rw [Bool.not_eq_false] at hlist
    obtain ⟨inner, hinner⟩ := standsForList_eq_true_iff.mp hlist
    have hnull : item.standsForNull = false := standsForNull_eq_false_iff.mpr (hinner ▸ nofun)
    have htold : item ∈ told items := List.mem_filter.mpr ⟨hitem, by rw [hnull]; rfl⟩
    simpa [hlist] using hscalar item htold
  · intro hscalar item htold
    rw [hscalar item (List.mem_of_mem_filter htold)]
    rfl

/-- A list is written as the joined texts of its items that stand for neither null nor a list. These
are all items that are not null exactly if no item stands for a list; nothing else comes out the
same, except if the only item that is not null is written as the empty text. -/
theorem wireText_list_eq_iff (nullSentinel : String) (items : List Value) :
    (list items).wireText nullSentinel = String.intercalate listSeparator
        (((told items).filter (!·.standsForList)).map (wireText nullSentinel)) ∧
      ((list items).wireText nullSentinel =
          String.intercalate listSeparator ((told items).map (wireText nullSentinel)) ↔
        (∀ item ∈ items, item.standsForList = false) ∨
          (told items).map (wireText nullSentinel) = [""]) := by
  refine ⟨wireText_list nullSentinel items, ?_⟩
  have hsublist : ((told items).filter (!·.standsForList)).Sublist (told items) :=
    List.filter_sublist
  rw [wireText_list, joined_eq_joined_iff (hsublist.map _), ← filter_told_eq_iff]
  refine or_congr_left ⟨fun htexts => hsublist.eq_of_length ?_, congrArg _⟩
  simpa using congrArg List.length htexts

/-- A list between two texts is lost. -/
theorem nested_list_lost :
    (list [text "a", list [text "b", text "c"], text "d"]).wireText "_null_" = "a,d" ∧
      String.intercalate listSeparator
        ((told [text "a", list [text "b", text "c"], text "d"]).map (wireText "_null_")) =
          "a,b,c,d" := by
  decide

end FullText.Value
