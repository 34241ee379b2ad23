import FullText.Value

/-!
Resolved values. Resolving a value once more changes nothing, and whoever reads a value reads its
resolved form: the number, the text and the written form of a value are those of what it stands for.
-/

namespace FullText.Value

theorem resolvedItems_eq_map (items : List Value) : resolvedItems items = items.map resolved := by
  induction items with
  | nil => rfl
  | cons item items ih => rw [resolvedItems, ih, List.map_cons]

mutual

@[simp]
theorem resolved_resolved : (v : Value) → v.resolved.resolved = v.resolved
  | .null => rfl
  | .bool _ => rfl
  | .int _ => rfl
  | .float _ => rfl
  | .text _ => rfl
  | .list items => by rw [resolved, resolved, resolvedItems_resolvedItems items]
  | .member _ => rfl
  | .backed _ backing => by rw [resolved, resolved_resolved backing]

@[simp]
theorem resolvedItems_resolvedItems : (items : List Value) →
    resolvedItems (resolvedItems items) = resolvedItems items
  | [] => rfl
  | item :: items => by
      rw [resolvedItems, resolvedItems, resolved_resolved item, resolvedItems_resolvedItems items]

end

/-- The items of a list that a value resolves to are resolved themselves. -/
theorem resolved_eq_of_list {v : Value} {items : List Value} (hv : v.resolved = .list items) :
    v.resolved = (list items).resolved := by
  rw [← hv, resolved_resolved]

@[simp]
theorem toFloat?_resolved (v : Value) : v.resolved.toFloat? = v.toFloat? := by
  rw [toFloat?, toFloat?, resolved_resolved]

@[simp]
theorem render?_resolved (v : Value) : v.resolved.render? = v.render? := by
  rw [render?, render?, resolved_resolved]

@[simp]
theorem wireText_resolved (nullSentinel : String) (v : Value) :
    v.resolved.wireText nullSentinel = v.wireText nullSentinel := by
  rw [wireText, wireText, resolved_resolved]

/-! ### Texts of their own -/

/-- The text that a value has whatever the sentinel is: that of a scalar, or those of the scalars in
a list. Null has none. -/
inductive HasText (v : Value) : String → Prop where
  | scalar {text : String} (htext : v.render? = some text) : HasText v text
  | list {items : List Value} (hlist : v.resolved = .list items) :
      HasText v (String.intercalate listSeparator (items.filterMap render?))

theorem wireText_of_null {v : Value} (hnull : v.resolved = .null) (nullSentinel : String) :
    v.wireText nullSentinel = nullSentinel := by
  rw [wireText, hnull]

theorem HasText.wireText_eq {v : Value} {text : String} (htext : v.HasText text)
    (nullSentinel : String) : v.wireText nullSentinel = text := by
  cases htext with
  | scalar htext =>
      rw [← render?_resolved] at htext
      unfold wireText
      cases hresolved : v.resolved with
      | null | list => simp [hresolved, render?, resolved] at htext
      | _ =>
          rw [hresolved] at htext
          exact congrArg (Option.getD · "") htext
  | list hlist => rw [wireText, hlist]

/-- A value that does not stand for null has a text of its own. -/
theorem exists_hasText : (v : Value) → v.resolved ≠ .null → ∃ text, v.HasText text
  | .null, hnull => absurd rfl hnull
  | .bool _, _ | .int _, _ | .float _, _ | .text _, _ | .member _, _ => ⟨_, .scalar rfl⟩
  | .list _, _ => ⟨_, .list rfl⟩
  | .backed _ backing, hnull => by
      obtain ⟨text, htext⟩ := exists_hasText backing hnull
      cases htext with
      | scalar htext => exact ⟨text, .scalar htext⟩
      | list hlist => exact ⟨_, .list hlist⟩

/-- The sentinel is written for null, and for a value whose own text is the sentinel. -/
theorem wireText_eq_sentinel_iff {v : Value} {nullSentinel : String} :
    v.wireText nullSentinel = nullSentinel ↔ v.resolved = .null ∨ v.HasText nullSentinel := by
  by_cases hnull : v.resolved = .null
  · simp [wireText_of_null hnull, hnull]
  · obtain ⟨text, htext⟩ := exists_hasText v hnull
    rw [htext.wireText_eq]
    constructor
    · rintro rfl
      exact .inr htext
    · rintro (h | h)
      · exact absurd h hnull
      · rw [← htext.wireText_eq nullSentinel, h.wireText_eq]

end FullText.Value
