import FullText.Proofs.Query.Escape

/-!
A reader for the query language. Bars between spaces separate alternatives and bind loosest, a
space between units asks for both, parentheses group, and a minus sign negates the unit after it. A
field clause is the name of the field between `@` and `:` followed by a quoted phrase, a range in
brackets, a set of tags in braces, a list of phrases in parentheses, or one escaped term.

The reader takes one token at a time and keeps the parentheses that are open on a stack, so what one
token does can be said without looking at the rest of the text.
-/

namespace FullText

/-- What one choice of a field clause asks of the field. -/
inductive Leaf where
  | phrase (text : String)
  | tag (text : String)
  /-- Exactly one term. -/
  | term (text : String)
  /-- A term that begins with a text. -/
  | stem (text : String)
  /-- What stands between the brackets of a range. -/
  | range (bounds : String)
deriving DecidableEq, Repr

/-- A query as it is read back. -/
inductive Formula where
  /-- One of several leaves on a field. -/
  | clause (field : String) (leaves : List Leaf)
  | not (formula : Formula)
  | and (left right : Formula)
  | or (left right : Formula)
deriving Repr

namespace Formula

/-- The truth of a query under an assignment of truth values to the leaves on each field. -/
def Holds (truth : String → Leaf → Prop) : Formula → Prop
  | .clause field leaves => ∃ leaf ∈ leaves, truth field leaf
  | .not formula => ¬ formula.Holds truth
  | .and left right => left.Holds truth ∧ right.Holds truth
  | .or left right => left.Holds truth ∨ right.Holds truth

/-- A query behind a number of minus signs. -/
def negate : Nat → Formula → Formula
  | 0, formula => formula
  | n + 1, formula => negate n (.not formula)

end Formula

/-! ### Tokens -/

inductive Token where
  | opening
  | closing
  | minus
  | space
  | bar
  | clause (field : String) (leaves : List Leaf)

/-- The phrases of a list behind its first quote, as they are escaped, up to the parenthesis that
closes the list. -/
def readPhrases (cs : List Char) : Option (List (List Char) × List Char) :=
  match _hsplit : splitUnescaped (· == '"') cs with
  | (phrase, '"' :: ' ' :: '|' :: ' ' :: '"' :: rest) =>
    (readPhrases rest).map fun (phrases, rest) => (phrase :: phrases, rest)
  | (phrase, '"' :: ')' :: rest) => some ([phrase], rest)
  | _ => none
termination_by cs.length
decreasing_by
  have hle := splitUnescaped_length_le (· == '"') cs
  rw [_hsplit] at hle
  simp only [List.length_cons] at hle
  omega

/-- The tags between braces, as they are escaped. Each brace has a space inside of it. -/
def readTags (cs : List Char) : Option (List (List Char) × List Char) :=
  match splitUnescaped (· == '\x7d') cs with
  | (inside, '\x7d' :: rest) =>
    if inside.getLast? = some ' ' then some (splitBars inside.dropLast, rest) else none
  | _ => none

def unescaped (cs : List Char) : String :=
  String.ofList (unescape cs)

/-- What a field clause asks, from behind its colon. -/
def readLeaves : List Char → Option (List Leaf × List Char)
  | '"' :: cs =>
    match splitUnescaped (· == '"') cs with
    | (phrase, '"' :: rest) => some ([.phrase (unescaped phrase)], rest)
    | _ => none
  | '[' :: cs =>
    match splitUnescaped (· == ']') cs with
    | (bounds, ']' :: rest) => some ([.range (String.ofList bounds)], rest)
    | _ => none
  | '\x7b' :: ' ' :: cs =>
    (readTags cs).map fun (tags, rest) => (tags.map fun tag => .tag (unescaped tag), rest)
  | '(' :: '"' :: cs =>
    (readPhrases cs).map fun (phrases, rest) =>
      (phrases.map fun phrase => .phrase (unescaped phrase), rest)
  | cs =>
    match splitUnescaped isSpecial cs with
    | (stem, '*' :: rest) => some ([.stem (unescaped stem)], rest)
    | (term, rest) => some ([.term (unescaped term)], rest)

def readName (cs : List Char) : Option (String × List Char) :=
  match splitUnescaped isSpecial cs with
  | (name, ':' :: rest) => some (String.ofList name, rest)
  | _ => none

def nextToken : List Char → Option (Token × List Char)
  | '(' :: cs => some (.opening, cs)
  | ')' :: cs => some (.closing, cs)
  | '-' :: cs => some (.minus, cs)
  | ' ' :: '|' :: ' ' :: cs => some (.bar, cs)
  | ' ' :: cs => some (.space, cs)
  | '@' :: cs => do
    let (field, rest) ← readName cs
    let (leaves, rest) ← readLeaves rest
    return (.clause field leaves, rest)
  | _ => none

private theorem readPhrases_length (cs : List Char) (phrases : List (List Char)) (rest : List Char)
    (h : readPhrases cs = some (phrases, rest)) : rest.length ≤ cs.length := by
  fun_induction readPhrases cs generalizing phrases rest with
  | case1 cs phrase tail hsplit ih =>
      obtain ⟨⟨more, left⟩, hmore, heq⟩ := Option.map_eq_some_iff.mp h
      have hle := splitUnescaped_length_le (· == '"') cs
      have htail := ih more left hmore
      rw [hsplit] at hle
      simp only [List.length_cons] at hle
      obtain rfl : left = rest := congrArg Prod.snd heq
      omega
  | case2 cs phrase tail hsplit =>
      have hle := splitUnescaped_length_le (· == '"') cs
      rw [hsplit] at hle
      simp only [List.length_cons] at hle
      obtain rfl : tail = rest := congrArg Prod.snd (Option.some.inj h)
      omega
  | case3 => cases h

private theorem readTags_length (cs : List Char) (tags : List (List Char)) (rest : List Char)
    (h : readTags cs = some (tags, rest)) : rest.length ≤ cs.length := by
  have hle := splitUnescaped_length_le (· == '\x7d') cs
  unfold readTags at h
  split at h
  · next inside tail hsplit =>
    rw [hsplit] at hle
    simp only [List.length_cons] at hle
    split at h
    · obtain rfl : tail = rest := congrArg Prod.snd (Option.some.inj h)
      omega
    · cases h
  · cases h

private theorem readLeaves_length (cs : List Char) (leaves : List Leaf) (rest : List Char)
    (h : readLeaves cs = some (leaves, rest)) : rest.length ≤ cs.length := by
  unfold readLeaves at h
  split at h
  · next cs =>
    have hle := splitUnescaped_length_le (· == '"') cs
    split at h
    · next phrase tail hsplit =>
      rw [hsplit] at hle
      simp only [List.length_cons] at hle ⊢
      obtain rfl : tail = rest := congrArg Prod.snd (Option.some.inj h)
      omega
    · cases h
  · next cs =>
    have hle := splitUnescaped_length_le (· == ']') cs
    split at h
    · next bounds tail hsplit =>
      rw [hsplit] at hle
      simp only [List.length_cons] at hle ⊢
      obtain rfl : tail = rest := congrArg Prod.snd (Option.some.inj h)
      omega
    · cases h
  · next cs =>
    obtain ⟨⟨tags, left⟩, htags, heq⟩ := Option.map_eq_some_iff.mp h
    have hle := readTags_length cs tags left htags
    obtain rfl : left = rest := congrArg Prod.snd heq
    simp only [List.length_cons]
    omega
  · next cs =>
    obtain ⟨⟨phrases, left⟩, hphrases, heq⟩ := Option.map_eq_some_iff.mp h
    have hle := readPhrases_length cs phrases left hphrases
    obtain rfl : left = rest := congrArg Prod.snd heq
    simp only [List.length_cons]
    omega
  · have hle := splitUnescaped_length_le isSpecial cs
    split at h
    · next stem tail hsplit =>
      rw [hsplit] at hle
      simp only [List.length_cons] at hle
      obtain rfl : tail = rest := congrArg Prod.snd (Option.some.inj h)
      omega
    · next term tail _ hsplit =>
      rw [hsplit] at hle
      obtain rfl : tail = rest := congrArg Prod.snd (Option.some.inj h)
      exact hle

private theorem readName_length (cs : List Char) (field : String) (rest : List Char)
    (h : readName cs = some (field, rest)) : rest.length < cs.length := by
  have hle := splitUnescaped_length_le isSpecial cs
  unfold readName at h
  split at h
  · next name tail hsplit =>
    rw [hsplit] at hle
    simp only [List.length_cons] at hle
    obtain rfl : tail = rest := congrArg Prod.snd (Option.some.inj h)
    omega
  · cases h

/-- Every token takes up some of the text. -/
theorem nextToken_length (cs : List Char) (token : Token) (rest : List Char)
    (h : nextToken cs = some (token, rest)) : rest.length < cs.length := by
  unfold nextToken at h
  split at h
  case h_6 cs =>
    obtain ⟨⟨field, tail⟩, hname, h⟩ := Option.bind_eq_some_iff.mp h
    obtain ⟨⟨leaves, left⟩, hleaves, h⟩ := Option.bind_eq_some_iff.mp h
    have hshort := readName_length cs field tail hname
    have hle := readLeaves_length tail leaves left hleaves
    obtain rfl : left = rest := congrArg Prod.snd (Option.some.inj h)
    simp only [List.length_cons]
    omega
  case h_7 => cases h
  all_goals
    obtain rfl := congrArg Prod.snd (Option.some.inj h)
    simp only [List.length_cons]
    omega

/-! ### The reader -/

/-- What has been read between two parentheses. -/
structure Frame where
  /-- The alternatives that are complete. -/
  earlier : Option Formula := none
  /-- The units of the alternative that is being read. -/
  units : Option Formula := none
  /-- How many minus signs wait for a unit. -/
  minuses : Nat := 0

namespace Frame

def put (frame : Frame) (formula : Formula) : Frame :=
  let unit := formula.negate frame.minuses
  { frame with
    units := some (match frame.units with
      | none => unit
      | some units => .and units unit)
    minuses := 0 }

/-- The alternatives of the frame, if the last of them has a unit. -/
def formula? (frame : Frame) : Option Formula :=
  match frame.earlier, frame.units with
  | _, none => none
  | none, some units => some units
  | some earlier, some units => some (.or earlier units)

end Frame

/-- The state of the reader: the frames around the innermost open parenthesis, the frame inside of
it, and whether a unit has to come next. -/
structure Reader where
  outer : List Frame := []
  frame : Frame := {}
  expects : Bool := true

namespace Reader

def put (reader : Reader) (formula : Formula) : Reader :=
  { reader with frame := reader.frame.put formula, expects := false }

/-- The state after a token, if the token can stand there. -/
def step (reader : Reader) : Token → Option Reader
  | .clause field leaves =>
    if reader.expects then some (reader.put (.clause field leaves)) else none
  | .minus =>
    if reader.expects then
      some { reader with frame := { reader.frame with minuses := reader.frame.minuses + 1 } }
    else none
  | .opening =>
    if reader.expects then some { outer := reader.frame :: reader.outer } else none
  | .closing =>
    match reader.expects, reader.outer, reader.frame.formula? with
    | false, frame :: outer, some formula => some (put { outer, frame } formula)
    | _, _, _ => none
  | .space => if reader.expects then none else some { reader with expects := true }
  | .bar =>
    if reader.expects then none
    else some { reader with frame := { earlier := reader.frame.formula? }, expects := true }

def finish (reader : Reader) : Option Formula :=
  match reader.expects, reader.outer with
  | false, [] => reader.frame.formula?
  | _, _ => none

def read (reader : Reader) (cs : List Char) : Option Formula :=
  if cs.isEmpty then reader.finish
  else
    match _hnext : nextToken cs with
    | none => none
    | some (token, rest) =>
      match reader.step token with
      | none => none
      | some reader => reader.read rest
termination_by cs.length
decreasing_by exact nextToken_length cs token rest _hnext

end Reader

/-- The query that a text spells. -/
def Formula.read? (s : String) : Option Formula :=
  Reader.read {} s.toList

end FullText
