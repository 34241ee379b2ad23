import FullText.Proofs.Search.Directives
import FullText.Proofs.Write.CompleteCommands
import Mathlib.Logic.Function.Iterate

/-!
The arguments of a call that runs a script, read from left to right: the source, the number of keys,
the keys, and everything behind them. Nothing but the number tells where the keys end. It agrees with
the keys whether or not the script had the key of its document already, so that the script finds its
keys, its own arguments and the attributes of the document where they belong.
-/

namespace FullText

/-- What the arguments of a call tell about the script. -/
structure ScriptCall where
  source : String
  keys : List String
  rest : List Arg

namespace ArgReader

/-- A call whose keys are taken by another reader. -/
def scriptCall (keys : ArgReader (List String)) : ArgReader ScriptCall := do
  return { source := ← text, keys := ← keys, rest := ← get }

theorem run_scriptCall {keysReader : ArgReader (List String)} {source : String}
    {keys : List String} {args rest : List Arg}
    (hkeys : keysReader.run args = some (keys, rest)) :
    (scriptCall keysReader).run (.text source :: args) =
      some ({ source, keys, rest }, rest) := by
  rw [scriptCall, run_bind (run_text source), run_bind hkeys]
  rfl

end ArgReader

namespace ScriptCall

/-- Reads the arguments of a call. -/
def read? (args : List Arg) : Option ScriptCall :=
  ((ArgReader.scriptCall ArgReader.counted).run args).map (·.1)

/-- Reads the arguments of a call as they go to the store, the number of keys written out. -/
def readTexts? (texts : List String) : Option ScriptCall :=
  ((ArgReader.scriptCall ArgReader.enumerated).run (texts.map .text)).map (·.1)

end ScriptCall

namespace Script

/-! ### Calls read back -/

section Compiled

variable {script : Script} (hfits : (script.keys.length : Int) ≤ Decimal.int64Max)
  (more : List Arg)

include hfits

theorem compiled_read? : ScriptCall.read? (script.compiled ++ more) =
    some { source := script.source, keys := script.keys, rest := script.args ++ more } := by
  have hargs : script.compiled ++ more = .text script.source ::
      (.count script.keys.length :: script.keys.map .text ++ (script.args ++ more)) := by
    simp [compiled]
  rw [ScriptCall.read?, hargs,
    ArgReader.run_scriptCall (ArgReader.run_counted script.keys hfits)]
  rfl

theorem compiled_readTexts? :
    ScriptCall.readTexts? ((script.compiled ++ more).map Arg.wireText) =
      some { source := script.source, keys := script.keys,
             rest := ArgReader.spelled (script.args ++ more) } := by
  have hargs : ((script.compiled ++ more).map Arg.wireText).map Arg.text =
      .text script.source :: (.text (Arg.count script.keys.length).wireText ::
        script.keys.map .text ++ ArgReader.spelled (script.args ++ more)) := by
    simp [compiled, ArgReader.spelled, Arg.wireText, Function.comp_def]
  rw [ScriptCall.readTexts?, hargs,
    ArgReader.run_scriptCall (ArgReader.run_enumerated script.keys hfits)]
  rfl

end Compiled

/-! ### The key of the document -/

theorem withDocumentKey_withDocumentKey (script : Script) (key : String) :
    (script.withDocumentKey key).withDocumentKey key = script.withDocumentKey key := by
  obtain ⟨own, hkeys, -⟩ := script.keys_withDocumentKey key
  have hhead : (script.withDocumentKey key).keys.head? = some key := by
    rw [hkeys, List.head?_cons]
  rw [withDocumentKey, if_pos hhead]

/-- Putting the key in front any number of times comes to putting it there once. -/
theorem withDocumentKey_iterate (script : Script) (key : String) (times : Nat) :
    ((fun other => other.withDocumentKey key)^[times] script).withDocumentKey key =
      script.withDocumentKey key := by
  induction times generalizing script with
  | zero => rfl
  | succ times ih => rw [Function.iterate_succ_apply, ih, withDocumentKey_withDocumentKey]

end Script

/-! ### Scripted entries -/

/-- What a script is given besides its keys: its own arguments, and then the attributes of the
document, each name before its text. -/
def Script.given (nullSentinel : String) (script : Script) (upsert : Row) : List Arg :=
  script.args ++ upsert.entries.flatMap fun (name, value) =>
    [.text name, .text (value.wireText nullSentinel)]

theorem BulkEntry.commands_scripted {operation : BulkOperation} (hoperation : operation ≠ .delete)
    (id index : String) (script : Script) (upsert : Row) (flag : Bool)
    (keySeparator nullSentinel : String) :
    ({ operation, id, index, body := some (.scripted script upsert flag) } : BulkEntry).commands
        keySeparator nullSentinel =
      [{ name := "EVAL"
         args := (script.withDocumentKey (index ++ keySeparator ++ id)).compiled ++
          (Row.pairs nullSentinel upsert).map .text }] := by
  cases operation with
  | delete => exact absurd rfl hoperation
  | create | index | update => rfl

/-- A scripted entry becomes one call, in which keys and arguments are kept apart. The keys are that
of the document and those of the script, less a first one that is the same; behind them stands what
the script is given besides. The arguments tell all of this, and so do the texts that go to the
store. Putting the key of the document in front beforehand changes nothing. The keys are counted
exactly, since no list in memory is longer than the greatest count. -/
theorem script_call_read? {entry : BulkEntry} {script : Script} {upsert : Row} {flag : Bool}
    (hoperation : entry.operation ≠ .delete)
    (hbody : entry.body = some (.scripted script upsert flag)) (hcountable : script.Countable)
    (keySeparator nullSentinel : String) :
    ∃ command own, entry.commands keySeparator nullSentinel = [command] ∧ command.name = "EVAL" ∧
      (script.keys = entry.key keySeparator :: own ∨
        script.keys = own ∧ own.head? ≠ some (entry.key keySeparator)) ∧
      ScriptCall.read? command.args = some {
        source := script.source
        keys := entry.key keySeparator :: own
        rest := script.given nullSentinel upsert } ∧
      ScriptCall.readTexts? command.argTexts = some {
        source := script.source
        keys := entry.key keySeparator :: own
        rest := ArgReader.spelled (script.given nullSentinel upsert) } ∧
      ∀ times : Nat, ({ entry with body := some (.scripted
        ((fun other => other.withDocumentKey (entry.key keySeparator))^[times] script) upsert flag) }
          : BulkEntry).commands keySeparator nullSentinel = [command] := by
  obtain ⟨operation, id, index, body⟩ := entry
  cases hbody
  change operation ≠ .delete at hoperation
  simp only [BulkEntry.key]
  obtain ⟨own, hkeys, hown⟩ := script.keys_withDocumentKey (index ++ keySeparator ++ id)
  have hfits := hcountable.withDocumentKey (index ++ keySeparator ++ id)
  have hgiven : script.args ++ (Row.pairs nullSentinel upsert).map .text =
      script.given nullSentinel upsert :=
    congrArg (script.args ++ ·) List.map_flatMap
  have hread := Script.compiled_read? hfits ((Row.pairs nullSentinel upsert).map .text)
  have htexts := Script.compiled_readTexts? hfits ((Row.pairs nullSentinel upsert).map .text)
  simp only [Script.source_withDocumentKey, Script.args_withDocumentKey, hkeys, hgiven]
    at hread htexts
  refine ⟨_, own, BulkEntry.commands_scripted hoperation id index script upsert flag _ _, rfl, hown,
    hread, htexts, fun times => ?_⟩
  rw [BulkEntry.commands_scripted hoperation, Script.withDocumentKey_iterate]

/-- A script that names the document twice, and a log after it. -/
def loggedScript : Script where
  source := "return ARGV[1]"
  keys := ["archive::2", "archive::2", "log"]
  args := [.int 5]

def loggedEntry : BulkEntry where
  operation := .update
  id := "2"
  index := "archive"
  body := some (.scripted loggedScript (.ofList [("name", .null)]) true)

/-- The document is still named twice, and nothing has moved. -/
theorem logged_call_read? :
    loggedEntry.operation ≠ .delete ∧ loggedScript.Countable ∧
    ∃ command, loggedEntry.commands "::" "_null_" = [command] ∧
      ScriptCall.readTexts? command.argTexts = some {
        source := "return ARGV[1]"
        keys := ["archive::2", "archive::2", "log"]
        rest := [.text "5", .text "name", .text "_null_"] } := by
  have hoperation : loggedEntry.operation ≠ .delete := by
    decide
  have hcountable : loggedScript.Countable := by
    decide
  obtain ⟨command, own, hcommands, -, hown, -, hread, -⟩ :=
    script_call_read? hoperation rfl hcountable "::" "_null_"
  refine ⟨hoperation, hcountable, command, hcommands, hread.trans ?_⟩
  rcases hown with hown | ⟨rfl, hhead⟩
  · rw [← hown]
    rfl
  · exact absurd rfl hhead

end FullText
