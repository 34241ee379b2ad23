import FullText.Query

/-!
Escaped text read from left to right. A backslash takes the character after it literally, so a
scanner that looks for a delimiter passes over every escaped one. The results here say that a text
whose special characters are escaped is passed over whole, and that its escapes can be taken out
again. Both hold for any class of special characters that contains the backslash.
-/

namespace FullText

def isSpecial (c : Char) : Bool :=
  specialChars.contains c

def isPhraseSpecial (c : Char) : Bool :=
  c == '"' || c == '\\'

/-- A text none of whose characters has a meaning in queries. Letters, digits and underscores have
none. -/
def Plain (s : String) : Prop :=
  ∀ c ∈ s.toList, isSpecial c = false

instance (s : String) : Decidable (Plain s) :=
  decidable_of_iff ((s.toList.all fun c => !isSpecial c) = true) (by simp [Plain])

/-- A text that holds neither a character of a class nor a backslash. -/
def FreeOf (stop : Char → Bool) (cs : List Char) : Prop :=
  ∀ c ∈ cs, stop c = false ∧ c ≠ '\\'

instance (stop : Char → Bool) (cs : List Char) : Decidable (FreeOf stop cs) :=
  decidable_of_iff ((cs.all fun c => !stop c && c != '\\') = true) (by simp [FreeOf])

/-- Cuts a text before its first unescaped character of a class. -/
def splitUnescaped (stop : Char → Bool) : List Char → List Char × List Char
  | [] => ([], [])
  | '\\' :: c :: cs => ('\\' :: c :: (splitUnescaped stop cs).1, (splitUnescaped stop cs).2)
  | c :: cs =>
    if stop c then ([], c :: cs)
    else (c :: (splitUnescaped stop cs).1, (splitUnescaped stop cs).2)

/-- A text without its escaping backslashes. -/
def unescape : List Char → List Char
  | [] => []
  | '\\' :: c :: cs => c :: unescape cs
  | c :: cs => c :: unescape cs

def extendFirst (lead : List Char) : List (List Char) → List (List Char)
  | [] => [lead]
  | part :: parts => (lead ++ part) :: parts

/-- Cuts a text at its unescaped bars that stand between spaces. -/
def splitBars : List Char → List (List Char)
  | [] => [[]]
  | '\\' :: c :: cs => extendFirst ['\\', c] (splitBars cs)
  | ' ' :: '|' :: ' ' :: cs => [] :: splitBars cs
  | c :: cs => extendFirst [c] (splitBars cs)

theorem isSpecial_backslash : isSpecial '\\' = true := by decide

theorem isPhraseSpecial_backslash : isPhraseSpecial '\\' = true := by decide

theorem escapedTerm_toList (s : String) :
    (escapedTerm s).toList = escapeWhere isSpecial s.toList := by
  rw [escapedTerm, String.toList_ofList]
  rfl

theorem phraseText_toList (s : String) :
    (phraseText s).toList = '"' :: (escapeWhere isPhraseSpecial s.toList ++ ['"']) := by
  simp only [phraseText, String.toList_append, String.toList_ofList]
  rfl

/-! ### Single steps of the scanner -/

theorem splitUnescaped_escaped (stop : Char → Bool) (c : Char) (cs : List Char) :
    splitUnescaped stop ('\\' :: c :: cs) =
      ('\\' :: c :: (splitUnescaped stop cs).1, (splitUnescaped stop cs).2) := rfl

theorem splitUnescaped_cons (stop : Char → Bool) (c : Char) (cs : List Char) (hc : c ≠ '\\') :
    splitUnescaped stop (c :: cs) =
      if stop c then ([], c :: cs)
      else (c :: (splitUnescaped stop cs).1, (splitUnescaped stop cs).2) := by
  rw [splitUnescaped]
  intro d ds h
  exact absurd h hc

/-- The scanner stops in front of an unescaped character of the class. -/
theorem splitUnescaped_stop (stop : Char → Bool) (c : Char) (cs : List Char) (hc : c ≠ '\\')
    (hstop : stop c = true) : splitUnescaped stop (c :: cs) = ([], c :: cs) := by
  rw [splitUnescaped_cons stop c cs hc, if_pos hstop]

theorem unescape_cons (c : Char) (cs : List Char) (hc : c ≠ '\\') :
    unescape (c :: cs) = c :: unescape cs := by
  rw [unescape]
  intro d ds h
  exact absurd h hc

theorem splitBars_cons (c : Char) (cs : List Char) (hback : c ≠ '\\')
    (hbar : ∀ rest, c :: cs ≠ ' ' :: '|' :: ' ' :: rest) :
    splitBars (c :: cs) = extendFirst [c] (splitBars cs) := by
  rw [splitBars]
  · intro d ds h
    exact absurd h hback
  · intro rest hspace htail
    exact hbar rest (by rw [hspace, htail])

/-! ### Escaped text -/

section Escaped

variable {special : Char → Bool} (hback : special '\\' = true)
include hback

private theorem ne_backslash_of_not_special (c : Char) (hc : ¬ special c = true) : c ≠ '\\' := by
  rintro rfl
  exact hc hback

/-- Taking the escapes out of an escaped text gives the text back. -/
theorem unescape_escapeWhere (cs : List Char) : unescape (escapeWhere special cs) = cs := by
  induction cs with
  | nil => rfl
  | cons c cs ih =>
      by_cases hc : special c = true
      · rw [escapeWhere, if_pos hc]
        exact congrArg (c :: ·) ih
      · rw [escapeWhere, if_neg hc,
          unescape_cons _ _ (ne_backslash_of_not_special hback c hc), ih]

/-- A scanner for special characters passes over an escaped text and goes on behind it. -/
theorem splitUnescaped_escapeWhere {stop : Char → Bool}
    (hstop : ∀ c, stop c = true → special c = true) (cs rest : List Char) :
    splitUnescaped stop (escapeWhere special cs ++ rest) =
      (escapeWhere special cs ++ (splitUnescaped stop rest).1, (splitUnescaped stop rest).2) := by
  induction cs with
  | nil => rfl
  | cons c cs ih =>
      by_cases hc : special c = true
      · rw [escapeWhere, if_pos hc]
        simp only [List.cons_append, splitUnescaped_escaped, ih]
      · have hne := ne_backslash_of_not_special hback c hc
        have hgo : stop c = false := by
          rw [Bool.eq_false_iff]
          exact fun h => hc (hstop c h)
        rw [escapeWhere, if_neg hc, List.cons_append, splitUnescaped_cons stop c _ hne, hgo, ih]
        rfl

omit hback in
/-- An escaped text starts with a special character only if that is a backslash. -/
theorem escapeWhere_head {cs rest tail : List Char} {d : Char}
    (h : escapeWhere special cs ++ rest = d :: tail) (hd : special d = true) :
    d = '\\' ∨ rest = d :: tail := by
  cases cs with
  | nil => exact Or.inr h
  | cons c cs =>
      by_cases hc : special c = true
      · rw [escapeWhere, if_pos hc] at h
        exact Or.inl (List.cons.inj h).1.symm
      · rw [escapeWhere, if_neg hc] at h
        exact absurd ((List.cons.inj h).1 ▸ hd) hc

end Escaped

theorem FreeOf.append {stop : Char → Bool} {cs ds : List Char} (hcs : FreeOf stop cs)
    (hds : FreeOf stop ds) : FreeOf stop (cs ++ ds) := by
  intro c hc
  rcases List.mem_append.mp hc with h | h
  · exact hcs c h
  · exact hds c h

/-- A text that is free of what the scanner looks for is passed over as well. -/
theorem splitUnescaped_append_of_free {stop : Char → Bool} (cs rest : List Char)
    (hfree : FreeOf stop cs) :
    splitUnescaped stop (cs ++ rest) =
      (cs ++ (splitUnescaped stop rest).1, (splitUnescaped stop rest).2) := by
  induction cs with
  | nil => rfl
  | cons c cs ih =>
      obtain ⟨hstop, hne⟩ := hfree c List.mem_cons_self
      rw [List.cons_append, splitUnescaped_cons stop c _ hne, hstop,
        ih fun d hd => hfree d (List.mem_cons_of_mem c hd)]
      rfl

theorem splitUnescaped_append (stop : Char → Bool) (cs : List Char) :
    (splitUnescaped stop cs).1 ++ (splitUnescaped stop cs).2 = cs := by
  fun_induction splitUnescaped stop cs with
  | case1 => rfl
  | case2 c cs ih => exact congrArg (fun text => '\\' :: c :: text) ih
  | case3 c cs _ _ => rfl
  | case4 c cs _ _ ih => exact congrArg (c :: ·) ih

theorem splitUnescaped_length_le (stop : Char → Bool) (cs : List Char) :
    (splitUnescaped stop cs).2.length ≤ cs.length := by
  have h := congrArg List.length (splitUnescaped_append stop cs)
  rw [List.length_append] at h
  omega

/-! ### Joined terms -/

theorem extendFirst_append (lead more : List Char) (parts : List (List Char))
    (hparts : parts ≠ []) :
    extendFirst lead (extendFirst more parts) = extendFirst (lead ++ more) parts := by
  cases parts with
  | nil => exact absurd rfl hparts
  | cons part parts => simp only [extendFirst, List.append_assoc]

theorem splitBars_ne_nil (cs : List Char) : splitBars cs ≠ [] := by
  have extendFirst_ne (lead : List Char) (parts : List (List Char)) :
      extendFirst lead parts ≠ [] := by
    cases parts <;> simp [extendFirst]
  fun_cases splitBars cs with
  | case1 => simp
  | case2 => exact extendFirst_ne _ _
  | case3 => simp
  | case4 => exact extendFirst_ne _ _

/-- An escaped term holds no unescaped space, so it goes whole to the first part. -/
theorem splitBars_escapeWhere (cs rest : List Char) :
    splitBars (escapeWhere isSpecial cs ++ rest) =
      extendFirst (escapeWhere isSpecial cs) (splitBars rest) := by
  induction cs with
  | nil =>
      obtain ⟨part, parts, h⟩ := List.exists_cons_of_ne_nil (splitBars_ne_nil rest)
      rw [escapeWhere, List.nil_append, h]
      rfl
  | cons c cs ih =>
      by_cases hc : isSpecial c = true
      · rw [escapeWhere, if_pos hc, List.cons_append, List.cons_append, splitBars, ih,
          extendFirst_append _ _ _ (splitBars_ne_nil rest)]
        rfl
      · have hne := ne_backslash_of_not_special isSpecial_backslash c hc
        -- A bar would have to start with an unescaped space.
        have hbar (tail : List Char) :
            c :: (escapeWhere isSpecial cs ++ rest) ≠ ' ' :: '|' :: ' ' :: tail := by
          intro h
          exact hc ((List.cons.inj h).1 ▸ (by decide))
        rw [escapeWhere, if_neg hc, List.cons_append, splitBars_cons c _ hne hbar, ih,
          extendFirst_append _ _ _ (splitBars_ne_nil rest)]
        rfl

/-- A scanner for a delimiter that does not stand in the bars passes over joined terms. -/
theorem splitUnescaped_joined {stop : Char → Bool}
    (hstop : ∀ c, stop c = true → isSpecial c = true)
    (hbars : FreeOf stop [' ', '|', ' '])
    (terms : List (List Char)) (rest : List Char) :
    splitUnescaped stop ([' ', '|', ' '].intercalate (terms.map (escapeWhere isSpecial)) ++ rest) =
      ([' ', '|', ' '].intercalate (terms.map (escapeWhere isSpecial)) ++
          (splitUnescaped stop rest).1,
        (splitUnescaped stop rest).2) := by
  induction terms with
  | nil => rfl
  | cons term terms ih =>
      cases terms with
      | nil =>
          simp only [List.map_cons, List.map_nil, List.intercalate_singleton]
          exact splitUnescaped_escapeWhere isSpecial_backslash hstop term rest
      | cons next terms =>
          simp only [List.map_cons, List.intercalate_cons_cons, List.append_assoc] at ih ⊢
          rw [splitUnescaped_escapeWhere isSpecial_backslash hstop,
            splitUnescaped_append_of_free [' ', '|', ' '] _ hbars, ih]

/-- Terms joined by bars are cut apart into the terms. -/
theorem splitBars_intercalate (terms : List (List Char)) (hterms : terms ≠ []) :
    splitBars ([' ', '|', ' '].intercalate (terms.map (escapeWhere isSpecial))) =
      terms.map (escapeWhere isSpecial) := by
  induction terms with
  | nil => exact absurd rfl hterms
  | cons term terms ih =>
      cases terms with
      | nil =>
          have h := splitBars_escapeWhere term []
          rw [List.append_nil] at h
          simp only [List.map_cons, List.map_nil, List.intercalate_singleton, h]
          simp [splitBars, extendFirst]
      | cons next terms =>
          have hrest := ih (by simp)
          simp only [List.map_cons, List.intercalate_cons_cons, List.append_assoc] at hrest ⊢
          rw [splitBars_escapeWhere term, List.cons_append, List.cons_append,
            List.cons_append, List.nil_append, splitBars, hrest]
          simp [extendFirst]

end FullText
