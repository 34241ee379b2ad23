/-!
Blank characters, and texts cut down at their ends. A character is blank when Unicode counts it
as white space; a joiner or a zero-width space is not blank.
-/

namespace FullText.Text

/-- The characters with Unicode's `White_Space` property. -/
def isBlank (c : Char) : Bool :=
  let code := c.toNat
  (0x09 ≤ code && code ≤ 0x0D) || code == 0x20 || code == 0x85 || code == 0xA0 ||
    code == 0x1680 || (0x2000 ≤ code && code ≤ 0x200A) || code == 0x2028 || code == 0x2029 ||
    code == 0x202F || code == 0x205F || code == 0x3000

/-- Drops the characters of a class from the front and from the back of a list. -/
def stripList (p : Char → Bool) (cs : List Char) : List Char :=
  ((cs.dropWhile p).reverse.dropWhile p).reverse

def strip (p : Char → Bool) (s : String) : String :=
  String.ofList (stripList p s.toList)

def trim (s : String) : String :=
  strip isBlank s

def allBlank (s : String) : Bool :=
  s.toList.all isBlank

/-- What follows `lead` in a list that starts with it. -/
def dropLeadList? : (lead cs : List Char) → Option (List Char)
  | [], cs => some cs
  | _ :: _, [] => none
  | l :: lead, c :: cs => if l = c then dropLeadList? lead cs else none

/-- What follows `lead` in a text that starts with it. -/
def dropLead? (lead s : String) : Option String :=
  (dropLeadList? lead.toList s.toList).map String.ofList

def startsWith (lead s : String) : Bool :=
  (dropLead? lead s).isSome

/-- Whether one list of characters stands somewhere inside another. -/
def containsList (part : List Char) : List Char → Bool
  | [] => part.isEmpty
  | c :: cs => (dropLeadList? part (c :: cs)).isSome || containsList part cs

def contains (s part : String) : Bool :=
  containsList part.toList s.toList

end FullText.Text
