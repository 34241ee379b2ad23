/-!
The kinds of fields that an index knows, and the options that a loosely described field may set.
-/

namespace FullText

/-- What a field holds, and so how it is searched. -/
inductive FieldKind where
  | text
  | tag
  | numeric
  | geo
  | geoShape
  | vector
deriving DecidableEq, Repr

namespace FieldKind

def keyword : FieldKind → String
  | .text => "TEXT"
  | .tag => "TAG"
  | .numeric => "NUMERIC"
  | .geo => "GEO"
  | .geoShape => "GEOSHAPE"
  | .vector => "VECTOR"

def name : FieldKind → String
  | .text => "text"
  | .tag => "tag"
  | .numeric => "numeric"
  | .geo => "geo"
  | .geoShape => "geoshape"
  | .vector => "vector"

def all : List FieldKind :=
  [.text, .tag, .numeric, .geo, .geoShape, .vector]

def ofName? (s : String) : Option FieldKind :=
  all.find? fun kind => kind.name == s

end FieldKind

/-- An option of a loosely described field. -/
inductive FieldOption where
  | sortable
  | noIndex
  | weight
  | noStem
  | separator
deriving DecidableEq, Repr

namespace FieldOption

def name : FieldOption → String
  | .sortable => "sortable"
  | .noIndex => "no_index"
  | .weight => "weight"
  | .noStem => "no_stem"
  | .separator => "separator"

end FieldOption

/-- The options that fields of a kind support. -/
def FieldKind.supports : FieldKind → FieldOption → Bool
  | .text, option => option != .separator
  | .tag, option => option == .sortable || option == .noIndex || option == .separator
  | .numeric, option => option == .sortable || option == .noIndex
  | .geo, option => option == .noIndex
  | .geoShape, _ => false
  | .vector, _ => false

end FullText
