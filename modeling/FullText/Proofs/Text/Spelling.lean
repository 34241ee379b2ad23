import FullText.Proofs.Text.Lead
import FullText.Text.Case
import Mathlib.Data.List.Infix
import Mathlib.Data.List.TakeWhile

/-!
Texts that are spelled alike, apart from the case of their ASCII letters and the blanks around them.
Without the blanks and in lower case they are one text. What lower case makes of the letters beyond
ASCII does not matter to a comparison with ASCII text, as long as it is beyond ASCII itself: it may be
several characters, and different ones in different places.
-/

namespace FullText.Text

/-! ### Case and blanks -/

/-- Two texts that differ at most in the case of ASCII letters. `Char.toLower` knows no others. -/
def SameLetters (cs ds : List Char) : Prop :=
  cs.map Char.toLower = ds.map Char.toLower

def Blank (cs : List Char) : Prop :=
  ∀ c ∈ cs, isBlank c = true

instance (cs ds : List Char) : Decidable (SameLetters cs ds) :=
  inferInstanceAs (Decidable (cs.map Char.toLower = ds.map Char.toLower))

/-- Two texts that differ at most in the case of ASCII letters and in the blanks at both ends. -/
inductive SpelledAlike (s t : String) : Prop where
  | intro {before cs after before' ds after' : List Char}
      (hfirst : s.toList = before ++ cs ++ after) (hsecond : t.toList = before' ++ ds ++ after')
      (hbefore : Blank before) (hafter : Blank after)
      (hbefore' : Blank before') (hafter' : Blank after') (hletters : SameLetters cs ds) :
      SpelledAlike s t

theorem toNat_toLower (c : Char) :
    c.toLower.toNat = if 65 ≤ c.toNat ∧ c.toNat ≤ 90 then c.toNat + 32 else c.toNat := by
  have hcapital : c.val ≥ 'A'.val ∧ c.val ≤ 'Z'.val ↔ 65 ≤ c.toNat ∧ c.toNat ≤ 90 := by
    simp only [ge_iff_le, UInt32.le_iff_toNat_le]
    rfl
  have hgap : ('a'.val - 'A'.val).toNat = 32 := rfl
  unfold Char.toLower
  split
  case isTrue h =>
    have hrange := hcapital.mp h
    rw [if_pos hrange]
    simp only [Char.toNat, UInt32.toNat_add] at hrange ⊢
    omega
  case isFalse h => rw [if_neg (mt hcapital.mpr h)]

theorem toLower_eq_self {c : Char} (hother : ¬(65 ≤ c.toNat ∧ c.toNat ≤ 90)) : c.toLower = c := by
  rw [← Char.toNat_inj, toNat_toLower, if_neg hother]

theorem isBlank_toLower (c : Char) : isBlank c.toLower = isBlank c := by
  simp only [isBlank, toNat_toLower]
  split
  case isTrue hcapital => grind
  case isFalse => rfl

theorem lowerChar_of_ascii {c : Char} (hascii : c.toNat < 128) : lowerChar c = [c.toLower] := by
  have hkelvin : c ≠ '\u212a' := by
    rintro rfl
    exact absurd hascii (by decide)
  have hdotted : c ≠ '\u0130' := by
    rintro rfl
    exact absurd hascii (by decide)
  rw [lowerChar, if_neg hkelvin, if_neg hdotted]

theorem lowerChar_toLower (c : Char) : lowerChar c.toLower = lowerChar c := by
  by_cases hcapital : 65 ≤ c.toNat ∧ c.toNat ≤ 90
  · have hlow := toNat_toLower c
    rw [if_pos hcapital] at hlow
    rw [lowerChar_of_ascii (by omega), lowerChar_of_ascii (by omega),
      toLower_eq_self (c := c.toLower) (by omega)]
  · rw [toLower_eq_self hcapital]

theorem stripList_padded {before after : List Char} (cs : List Char) (hbefore : Blank before)
    (hafter : Blank after) :
    stripList isBlank (before ++ cs ++ after) = stripList isBlank cs := by
  have hback : ∀ c ∈ after.reverse, isBlank c = true := by
    intro c hc
    exact hafter c (List.mem_reverse.mp hc)
  rw [stripList, stripList, List.append_assoc, List.dropWhile_append_of_pos hbefore,
    List.dropWhile_append]
  split
  case isTrue hnothing =>
    -- The text between the blanks is blank itself, and so nothing is left of either.
    rw [List.isEmpty_iff.mp hnothing, List.dropWhile_eq_nil_iff.mpr hafter]
  case isFalse => rw [List.reverse_append, List.dropWhile_append_of_pos hback]

theorem stripList_map_toLower (cs : List Char) :
    stripList isBlank (cs.map Char.toLower) = (stripList isBlank cs).map Char.toLower := by
  have hblank : isBlank ∘ Char.toLower = isBlank := funext isBlank_toLower
  simp only [stripList, List.dropWhile_map, ← List.map_reverse, hblank]

theorem flatMap_lowerChar_toLower (cs : List Char) :
    (cs.map Char.toLower).flatMap lowerChar = cs.flatMap lowerChar := by
  rw [List.flatMap_map]
  exact List.flatMap_congr fun c _ => lowerChar_toLower c

/-- Texts that are spelled alike are one text without their blanks and in lower case. -/
theorem SpelledAlike.lower_trim {s t : String} (halike : SpelledAlike s t) :
    lower (trim s) = lower (trim t) := by
  obtain ⟨hfirst, hsecond, hbefore, hafter, hbefore', hafter', hletters⟩ := halike
  simp only [lower, trim, strip, String.toList_ofList]
  rw [hfirst, hsecond, stripList_padded _ hbefore hafter, stripList_padded _ hbefore' hafter',
    ← flatMap_lowerChar_toLower, ← stripList_map_toLower, hletters, stripList_map_toLower,
    flatMap_lowerChar_toLower]

/-! ### Lower case in full -/

def Ascii (cs : List Char) : Prop :=
  ∀ c ∈ cs, c.toNat < 128

def BeyondAscii (cs : List Char) : Prop :=
  ∀ c ∈ cs, 128 ≤ c.toNat

instance (cs : List Char) : Decidable (Ascii cs) :=
  List.decidableBAll (fun c : Char => c.toNat < 128) cs

/-- A character whose lower case has ASCII in it: ASCII itself, and two letters beyond it. -/
def LowersToAscii (c : Char) : Prop :=
  c.toNat < 128 ∨ c = '\u212a' ∨ c = '\u0130'

/-- A text and what lower case may make of it. A character whose lower case has ASCII in it is lowered
on its own. Any other becomes some characters beyond ASCII, which may depend on what stands around
it. -/
inductive LowersTo : List Char → List Char → Prop where
  | nil : LowersTo [] []
  | known {c : Char} {cs ds : List Char} (hknown : LowersToAscii c) (hrest : LowersTo cs ds) :
      LowersTo (c :: cs) (lowerChar c ++ ds)
  | beyond {c : Char} {cs out ds : List Char} (hother : ¬LowersToAscii c) (hne : out ≠ [])
      (hout : BeyondAscii out) (hrest : LowersTo cs ds) : LowersTo (c :: cs) (out ++ ds)

/-- Two texts with the same ASCII in them, and with characters beyond ASCII at the same places. -/
inductive SameAscii : List Char → List Char → Prop where
  | nil : SameAscii [] []
  | cons {cs ds : List Char} (c : Char) (hrest : SameAscii cs ds) : SameAscii (c :: cs) (c :: ds)
  | beyond {out cs out' ds : List Char} (hne : out ≠ []) (hout : BeyondAscii out) (hne' : out' ≠ [])
      (hout' : BeyondAscii out') (hrest : SameAscii cs ds) : SameAscii (out ++ cs) (out' ++ ds)

theorem lowerChar_of_other {c : Char} (hother : ¬LowersToAscii c) : lowerChar c = [c] := by
  obtain ⟨hbeyond, hkelvin, hdotted⟩ : ¬c.toNat < 128 ∧ c ≠ '\u212a' ∧ c ≠ '\u0130' := by
    simpa only [LowersToAscii, not_or] using hother
  rw [lowerChar, if_neg hkelvin, if_neg hdotted, toLower_eq_self (by omega)]

/-- However the letters beyond ASCII are lowered, they are as far from ASCII as `lower` leaves them. -/
theorem LowersTo.sameAscii {cs ds : List Char} (hlowers : LowersTo cs ds) :
    SameAscii ds (cs.flatMap lowerChar) := by
  induction hlowers with
  | nil => exact .nil
  | @known c cs ds hknown _ ih =>
      rw [List.flatMap_cons]
      induction lowerChar c with
      | nil => exact ih
      | cons d lowered hrest => exact .cons d hrest
  | @beyond c cs out ds hother hne hout _ ih =>
      rw [List.flatMap_cons, lowerChar_of_other hother]
      refine .beyond hne hout (List.cons_ne_nil c []) ?_ ih
      rintro d hd
      obtain rfl := List.mem_singleton.mp hd
      exact Nat.le_of_not_lt fun hascii => hother (.inl hascii)

theorem containsList_iff {part cs : List Char} : containsList part cs = true ↔ part <:+: cs := by
  induction cs with
  | nil => simp [containsList]
  | cons c cs ih =>
      have hlead : (dropLeadList? part (c :: cs)).isSome ↔ part <+: c :: cs := by
        simp only [Option.isSome_iff_exists, dropLeadList?_eq_some_iff]
        exact exists_congr fun rest => eq_comm
      rw [containsList, Bool.or_eq_true, hlead, ih, List.infix_cons_iff]

/-- ASCII text begins nowhere among characters beyond ASCII. -/
theorem infix_beyond_iff {part out : List Char} (hascii : Ascii part) (hpart : part ≠ [])
    (hout : BeyondAscii out) (cs : List Char) : part <:+: out ++ cs ↔ part <:+: cs := by
  induction out with
  | nil => rfl
  | cons c out ih =>
      obtain ⟨hc, hout⟩ := List.forall_mem_cons.mp hout
      rw [List.cons_append, List.infix_cons_iff, ih hout]
      refine or_iff_right ?_
      rintro ⟨rest, hstart⟩
      obtain ⟨p, part, rfl⟩ := List.exists_cons_of_ne_nil hpart
      obtain rfl : p = c := (List.cons.inj hstart).1
      exact absurd (hascii p List.mem_cons_self) (Nat.not_lt.mpr hc)

namespace SameAscii

variable {cs ds part : List Char}

theorem symm (hsame : SameAscii cs ds) : SameAscii ds cs := by
  induction hsame with
  | nil => exact .nil
  | cons c _ ih => exact .cons c ih
  | beyond hne hout hne' hout' _ ih => exact .beyond hne' hout' hne hout ih

theorem eq_of_ascii (hsame : SameAscii cs ds) (hascii : Ascii cs) : ds = cs := by
  induction hsame with
  | nil => rfl
  | cons c _ ih => rw [ih (List.forall_mem_cons.mp hascii).2]
  | @beyond out cs out' ds hne hout _ _ _ _ =>
      obtain ⟨c, out, rfl⟩ := List.exists_cons_of_ne_nil hne
      have hc : 128 ≤ c.toNat := hout c List.mem_cons_self
      exact absurd (hascii c List.mem_cons_self) (Nat.not_lt.mpr hc)

private theorem starts (hsame : SameAscii cs ds) (hascii : Ascii part) (hstart : part <+: cs) :
    part <+: ds := by
  induction hsame generalizing part with
  | nil => exact hstart
  | cons c _ ih =>
      cases part with
      | nil => exact List.nil_prefix
      | cons p part =>
          obtain ⟨rfl, hlater⟩ := List.cons_prefix_cons.mp hstart
          exact List.cons_prefix_cons.mpr ⟨rfl, ih (List.forall_mem_cons.mp hascii).2 hlater⟩
  | @beyond out cs _ _ hne hout _ _ _ _ =>
      obtain ⟨c, out, rfl⟩ := List.exists_cons_of_ne_nil hne
      cases part with
      | nil => exact List.nil_prefix
      | cons p part =>
          obtain ⟨rfl, -⟩ := List.cons_prefix_cons.mp hstart
          have hp : 128 ≤ p.toNat := hout p List.mem_cons_self
          exact absurd (hascii p List.mem_cons_self) (Nat.not_lt.mpr hp)

private theorem holds (hsame : SameAscii cs ds) (hascii : Ascii part) (hpart : part ≠ [])
    (hinside : part <:+: cs) : part <:+: ds := by
  induction hsame with
  | nil => exact hinside
  | cons c hrest ih =>
      rcases List.infix_cons_iff.mp hinside with hstart | hlater
      · exact ((hrest.cons c).starts hascii hstart).isInfix
      · exact List.infix_cons (ih hlater)
  | beyond _ hout _ hout' _ ih =>
      rw [infix_beyond_iff hascii hpart hout']
      exact ih ((infix_beyond_iff hascii hpart hout _).mp hinside)

theorem eq_iff (hsame : SameAscii cs ds) {known : String} (hascii : Ascii known.toList) :
    String.ofList cs = known ↔ String.ofList ds = known := by
  rw [← String.toList_inj, ← String.toList_inj, String.toList_ofList, String.toList_ofList]
  constructor
  · rintro rfl
    exact hsame.eq_of_ascii hascii
  · rintro rfl
    exact hsame.symm.eq_of_ascii hascii

theorem contains_eq (hsame : SameAscii cs ds) {known : String} (hascii : Ascii known.toList)
    (hne : known.toList ≠ []) :
    contains (String.ofList cs) known = contains (String.ofList ds) known := by
  rw [contains, contains, String.toList_ofList, String.toList_ofList, Bool.eq_iff_iff,
    containsList_iff, containsList_iff]
  exact ⟨hsame.holds hascii hne, hsame.symm.holds hascii hne⟩

end SameAscii

end FullText.Text
