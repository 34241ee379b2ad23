import FullText.Command
import FullText.Error
import FullText.Field.Kind

/-!
The fields of an index. A field has a name and a type with its attributes, and serialises to the
tokens that define it: its name, the keyword of its kind and then the attributes that are set, in a
fixed order.
-/

namespace FullText

/-- How the shapes of a field lie. -/
inductive CoordSystem where
  | flat
  | spherical
deriving DecidableEq, Repr

def CoordSystem.keyword : CoordSystem → String
  | .flat => "FLAT"
  | .spherical => "SPHERICAL"

/-- How nearest vectors are found. -/
inductive VectorAlgorithm where
  | flat
  | hnsw
deriving DecidableEq, Repr

def VectorAlgorithm.keyword : VectorAlgorithm → String
  | .flat => "FLAT"
  | .hnsw => "HNSW"

/-- The components of a vector. -/
inductive VectorType where
  | float32
  | float64
deriving DecidableEq, Repr

def VectorType.keyword : VectorType → String
  | .float32 => "FLOAT32"
  | .float64 => "FLOAT64"

/-- How far two vectors are apart. -/
inductive DistanceMetric where
  | l2
  | innerProduct
  | cosine
deriving DecidableEq, Repr

def DistanceMetric.keyword : DistanceMetric → String
  | .l2 => "L2"
  | .innerProduct => "IP"
  | .cosine => "COSINE"

/-- The attributes of a vector field. -/
structure VectorParams where
  algorithm : VectorAlgorithm
  dataType : VectorType
  dim : UInt32
  distance : DistanceMetric
deriving DecidableEq, Repr

namespace VectorParams

/-- A graph index over single-precision vectors that are compared by their angle. -/
def hnsw (dim : UInt32) : VectorParams where
  algorithm := .hnsw
  dataType := .float32
  dim := dim
  distance := .cosine

/-- The tokens of the attributes. The number after the algorithm counts the tokens that follow. -/
def tokens (params : VectorParams) : List Arg :=
  [.text params.algorithm.keyword, .int 6,
    .text "TYPE", .text params.dataType.keyword,
    .text "DIM", .int params.dim.toNat,
    .text "DISTANCE_METRIC", .text params.distance.keyword]

end VectorParams

/-- The type of a field with its attributes. -/
inductive FieldType where
  | text (weight : Float) (noStem sortable noIndex : Bool)
  | tag (separator : String) (sortable noIndex : Bool)
  | numeric (sortable noIndex : Bool)
  | geo (noIndex : Bool)
  | geoShape (coords : Option CoordSystem)
  | vector (params : Option VectorParams)

namespace FieldType

def kind : FieldType → FieldKind
  | .text .. => .text
  | .tag .. => .tag
  | .numeric .. => .numeric
  | .geo .. => .geo
  | .geoShape .. => .geoShape
  | .vector .. => .vector

def isSortable : FieldType → Bool
  | .text _ _ sortable _ => sortable
  | .tag _ sortable _ => sortable
  | .numeric sortable _ => sortable
  | .geo _ | .geoShape _ | .vector _ => false

/-- A keyword that stands for an attribute which is set. -/
def flag (keyword : String) (set : Bool) : List Arg :=
  if set then [.text keyword] else []

def tokens : FieldType → List Arg
  | .text weight noStem sortable noIndex =>
    .text "WEIGHT" :: .float weight :: flag "NOSTEM" noStem ++ flag "SORTABLE" sortable ++
      flag "NOINDEX" noIndex
  | .tag separator sortable noIndex =>
    .text "SEPARATOR" :: .text separator :: flag "SORTABLE" sortable ++ flag "NOINDEX" noIndex
  | .numeric sortable noIndex => flag "SORTABLE" sortable ++ flag "NOINDEX" noIndex
  | .geo noIndex => flag "NOINDEX" noIndex
  | .geoShape none => []
  | .geoShape (some coords) => [.text coords.keyword]
  | .vector none => []
  | .vector (some params) => params.tokens

/-- What is wrong with the attributes, if anything: a weight has to be positive and finite, a
separator one character, and vectors need a dimension. -/
def issue? : FieldType → Option ValueIssue
  | .text weight .. =>
    if weight.isFinite && 0 < weight then none else some (.weightNotPositive weight)
  | .tag separator .. =>
    if separator.toList.length = 1 then none else some (.separatorLength separator)
  | .vector (some params) => if params.dim = 0 then some .dimensionZero else none
  | _ => none

end FieldType

/-- A named field of an index. -/
structure Field where
  name : String
  type : FieldType

namespace Field

def kind (field : Field) : FieldKind :=
  field.type.kind

def tokens (field : Field) : List Arg :=
  .text field.name :: .text field.kind.keyword :: field.type.tokens

/-- Whether the field can be part of an index. -/
def check (field : Field) : Except Error Unit :=
  if field.name = "" then
    .error .emptyFieldName
  else
    match field.type.issue? with
    | some issue => .error (.invalidValue field.name issue)
    | none => .ok ()

def text (name : String) (weight : Float := 1) (noStem sortable noIndex : Bool := false) : Field :=
  { name, type := .text weight noStem sortable noIndex }

/-- A tag field, whose tags are separated by commas unless another separator is given. -/
def tag (name : String) (separator : String := ",") (sortable noIndex : Bool := false) : Field :=
  { name, type := .tag separator sortable noIndex }

def numeric (name : String) (sortable noIndex : Bool := false) : Field :=
  { name, type := .numeric sortable noIndex }

def geo (name : String) (noIndex : Bool := false) : Field :=
  { name, type := .geo noIndex }

def geoShape (name : String) (coords : Option CoordSystem := none) : Field :=
  { name, type := .geoShape coords }

def vector (name : String) (params : Option VectorParams := none) : Field :=
  { name, type := .vector params }

end Field

/-- The attributes of a loosely described field; one that is not set takes its usual value. -/
structure FieldOptions where
  sortable : Option Bool := none
  noIndex : Option Bool := none
  weight : Option Float := none
  noStem : Option Bool := none
  separator : Option String := none

namespace FieldOptions

/-- The options that are set, even to their usual value, in a fixed order. -/
def present (options : FieldOptions) : List FieldOption :=
  (if options.sortable.isSome then [.sortable] else []) ++
  (if options.noIndex.isSome then [.noIndex] else []) ++
  (if options.weight.isSome then [.weight] else []) ++
  (if options.noStem.isSome then [.noStem] else []) ++
  (if options.separator.isSome then [.separator] else [])

/-- The type of a field of the given kind. Options that the kind does not support are dropped. -/
def fieldType (options : FieldOptions) (kind : FieldKind) : FieldType :=
  let sortable := options.sortable.getD false
  let noIndex := options.noIndex.getD false
  match kind with
  | .text => .text (options.weight.getD 1) (options.noStem.getD false) sortable noIndex
  | .tag => .tag (options.separator.getD ",") sortable noIndex
  | .numeric => .numeric sortable noIndex
  | .geo => .geo noIndex
  | .geoShape => .geoShape none
  | .vector => .vector none

end FieldOptions

/-- A field from a loose description. The name comes first, then the first option that the kind does
not support, then the values of the options. -/
def Field.define (kind : FieldKind) (name : String) (options : FieldOptions) :
    Except Error Field := do
  if name = "" then
    throw .emptyFieldName
  if let some option := options.present.find? fun option => !kind.supports option then
    throw (.invalidFieldOption kind option)
  let field : Field := { name, type := options.fieldType kind }
  field.check
  return field

end FullText
