import FullText.Command

/-!
Scripts that run inside the store, with the keys they touch and their other arguments. A script
travels as its source, the number of keys, the keys and the arguments.
-/

namespace FullText

/-- A script with its keys and arguments. -/
structure Script where
  source : String
  keys : List String := []
  args : List Arg := []

namespace Script

/-- The script with a key in front of its keys, unless it is there already. -/
def withDocumentKey (script : Script) (key : String) : Script :=
  if script.keys.head? = some key then script else { script with keys := key :: script.keys }

def compiled (script : Script) : List Arg :=
  .text script.source :: .count script.keys.length :: script.keys.map .text ++ script.args

def command (script : Script) : Command :=
  { name := "EVAL", args := script.compiled }

def toJson (script : Script) : Json :=
  .object [("source", .text script.source), ("keys", .texts script.keys),
    ("args", .array (script.args.map Arg.toJson))]

end Script

end FullText
