import FullText.Field
import FullText.Json.Tree

/-!
Fields described in JSON: the words for the parts of a field, and the records that hold their
options.
-/

namespace FullText

def FieldKind.ofTree? (tree : JsonTree) : Option FieldKind :=
  tree.word?.bind FieldKind.ofName?

def CoordSystem.ofTree? (tree : JsonTree) : Option CoordSystem := do
  let word ← tree.word?
  [CoordSystem.flat, .spherical].find? fun coords => coords.keyword == word

def VectorAlgorithm.ofTree? (tree : JsonTree) : Option VectorAlgorithm := do
  let word ← tree.word?
  [VectorAlgorithm.flat, .hnsw].find? fun algorithm => algorithm.keyword == word

def VectorType.ofTree? (tree : JsonTree) : Option VectorType := do
  let word ← tree.word?
  [VectorType.float32, .float64].find? fun type => type.keyword == word

def DistanceMetric.ofTree? (tree : JsonTree) : Option DistanceMetric := do
  let word ← tree.word?
  [DistanceMetric.l2, .innerProduct, .cosine].find? fun metric => metric.keyword == word

/-- The vector attributes that a JSON record describes; none of them may be missing. -/
def VectorParams.ofTree? (tree : JsonTree) : Option VectorParams := do
  let values ← tree.record? ["algorithm", "data_type", "dim", "distance"]
  let [some algorithm, some dataType, some dim, some distance] := values | none
  return {
    algorithm := ← VectorAlgorithm.ofTree? algorithm
    dataType := ← VectorType.ofTree? dataType
    dim := UInt32.ofNat (← dim.natBelow? UInt32.size)
    distance := ← DistanceMetric.ofTree? distance }

/-- The options that a JSON record describes; one that is null or missing is not set. -/
def FieldOptions.ofTree? (tree : JsonTree) : Option FieldOptions := do
  let values ← tree.record? ["sortable", "no_index", "weight", "no_stem", "separator"]
  let [sortable, noIndex, weight, noStem, separator] := values | none
  return {
    sortable := ← JsonTree.nullable? JsonTree.bool? sortable
    noIndex := ← JsonTree.nullable? JsonTree.bool? noIndex
    weight := ← JsonTree.nullable? JsonTree.float? weight
    noStem := ← JsonTree.nullable? JsonTree.bool? noStem
    separator := ← JsonTree.nullable? JsonTree.text? separator }

end FullText
