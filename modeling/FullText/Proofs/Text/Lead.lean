import FullText.Text.Blank

/-!
Texts that begin with a text. What is left of a text without its lead is what follows the lead in
it, and taking off one lead after another comes to taking off both together.
-/

namespace FullText.Text

theorem dropLeadList?_eq_some_iff {lead cs rest : List Char} :
    dropLeadList? lead cs = some rest ↔ cs = lead ++ rest := by
  induction lead generalizing cs with
  | nil => simp [dropLeadList?]
  | cons l lead ih =>
      cases cs with
      | nil => simp [dropLeadList?]
      | cons c cs =>
          by_cases hsame : l = c
          · simp [dropLeadList?, hsame, ih]
          · simp [dropLeadList?, hsame, Ne.symm hsame]

theorem dropLead?_eq_some_iff {lead s rest : String} :
    dropLead? lead s = some rest ↔ s = lead ++ rest := by
  simp only [dropLead?, Option.map_eq_some_iff, dropLeadList?_eq_some_iff]
  constructor
  · rintro ⟨cs, hcs, rfl⟩
    rw [← String.toList_inj, hcs, String.toList_append, String.toList_ofList]
  · rintro rfl
    exact ⟨rest.toList, String.toList_append, String.ofList_toList⟩

theorem dropLead?_append (lead rest : String) : dropLead? lead (lead ++ rest) = some rest :=
  dropLead?_eq_some_iff.mpr rfl

theorem dropLead?_eq_none_iff {lead s : String} :
    dropLead? lead s = none ↔ ∀ rest, s ≠ lead ++ rest := by
  simp only [Option.eq_none_iff_forall_ne_some, ne_eq, dropLead?_eq_some_iff]

theorem startsWith_iff {lead s : String} :
    startsWith lead s = true ↔ ∃ rest, s = lead ++ rest := by
  simp only [startsWith, Option.isSome_iff_exists, dropLead?_eq_some_iff]

theorem dropLead?_bind (lead next s : String) :
    (dropLead? lead s).bind (dropLead? next) = dropLead? (lead ++ next) s := by
  ext rest
  simp only [Option.bind_eq_some_iff, dropLead?_eq_some_iff, String.append_assoc]
  constructor
  · rintro ⟨_, rfl, rfl⟩
    rfl
  · rintro rfl
    exact ⟨next ++ rest, rfl, rfl⟩

end FullText.Text
