import FullText.Outcome
import FullText.Proofs.Text.Spelling

/-!
Known messages however they are spelled. A message reports the fault of a known one in any case of its
ASCII letters and with any blanks around it, and the fault tells the message as it came. The known
messages are ASCII text, so it does not matter how the letters beyond ASCII are lowered.
-/

namespace FullText

namespace FaultKind

/-- The kind of fault depends on nothing but comparisons with ASCII text. -/
theorem ofLowered?_congr {message other : String}
    (heq : ∀ known : String, Text.Ascii known.toList → (message = known ↔ other = known))
    (hcontains : ∀ known : String, Text.Ascii known.toList → known.toList ≠ [] →
      Text.contains message known = Text.contains other known) :
    ofLowered? message = ofLowered? other := by
  have hbeq : ∀ known : String, Text.Ascii known.toList → (message == known) = (other == known) := by
    intro known hascii
    rw [Bool.eq_iff_iff, beq_iff_eq, beq_iff_eq]
    exact heq known hascii
  have hmember : ∀ knowns : List String, (∀ known ∈ knowns, Text.Ascii known.toList) →
      knowns.contains message = knowns.contains other := by
    intro knowns hascii
    rw [Bool.eq_iff_iff, List.contains_iff_mem, List.contains_iff_mem]
    constructor
    · intro hmem
      rwa [(heq message (hascii message hmem)).mp rfl]
    · intro hmem
      rwa [(heq other (hascii other hmem)).mpr rfl]
  simp (disch := decide) only [ofLowered?, hbeq, hcontains, hmember]

/-- The kind of fault does not depend on how the letters beyond ASCII are lowered. -/
theorem ofLowered?_eq_ofMessage? {message : String} {lowered : List Char}
    (hlowers : Text.LowersTo (Text.trim message).toList lowered) :
    ofLowered? (String.ofList lowered) = ofMessage? message := by
  have hsame := hlowers.sameAscii
  exact ofLowered?_congr (fun _ hascii => hsame.eq_iff hascii)
    fun _ hascii hne => hsame.contains_eq hascii hne

theorem ofMessage?_eq {message respelled : String} (halike : Text.SpelledAlike message respelled) :
    ofMessage? respelled = ofMessage? message := by
  rw [ofMessage?, ofMessage?, halike.lower_trim]

end FaultKind

/-- An outcome with a message is a fault exactly if the message reports one. -/
theorem classify_eq_store_iff {outcome : Outcome} {message : String} {context : List String}
    {fault : Fault} (hmessage : outcome.message? = some message) :
    classify outcome context = .error (.store fault) ↔
      Fault.ofMessage? message context = some fault := by
  unfold classify
  rw [hmessage, Option.bind_some]
  cases Fault.ofMessage? message context with
  | some known => simp
  | none => cases outcome <;> simp

/-- Messages that are spelled alike report the same kind of fault, whatever lower case makes of the
letters beyond ASCII in them. However they have arrived, both are raised as faults or neither is, and
the two faults differ in nothing but the message, which is told as it came. -/
theorem faults_spelled_alike {message respelled : String}
    (halike : Text.SpelledAlike message respelled) :
    FaultKind.ofMessage? respelled = FaultKind.ofMessage? message ∧
    (∀ lowered, Text.LowersTo (Text.trim respelled).toList lowered →
      FaultKind.ofLowered? (String.ofList lowered) = FaultKind.ofMessage? message) ∧
    ∀ (first second : Outcome) (context : List String) (fault : Fault),
      first.message? = some message → second.message? = some respelled →
      (classify second context = .error (.store fault) ↔ ∃ known,
        classify first context = .error (.store known) ∧
          fault = { known with message := respelled }) := by
  have hkind := FaultKind.ofMessage?_eq halike
  refine ⟨hkind, ?_, ?_⟩
  · intro lowered hlowers
    rw [FaultKind.ofLowered?_eq_ofMessage? hlowers, hkind]
  · intro first second context fault hfirst hsecond
    simp only [classify_eq_store_iff hfirst, classify_eq_store_iff hsecond, Fault.ofMessage?, hkind,
      Option.map_eq_some_iff]
    constructor
    · rintro ⟨kind, hkind, rfl⟩
      exact ⟨_, ⟨kind, hkind, rfl⟩, rfl⟩
    · rintro ⟨_, ⟨kind, hkind, rfl⟩, rfl⟩
      exact ⟨kind, hkind, rfl⟩

/-- A message of the store, left behind by a command that failed without a word. -/
def usualWarning : Outcome :=
  .failed (some "Document already exists")

/-- The same message in capitals, with an ideographic space before it and the end of a line behind it,
thrown by the transport. -/
def shoutedWarning : Outcome :=
  .thrown (.server "\u3000dOCUMENT ALREADY EXISTS\n")

theorem shoutedWarning_raised :
    Text.SpelledAlike "Document already exists" "\u3000dOCUMENT ALREADY EXISTS\n" ∧
      FaultKind.ofMessage? "\u3000dOCUMENT ALREADY EXISTS\n" = some .duplicateDocument ∧
      classify usualWarning ["books", "1", "x"] = .error (.store {
        kind := .duplicateDocument
        message := "Document already exists"
        context := some ["books", "1"] }) ∧
      classify shoutedWarning ["books", "1", "x"] = .error (.store {
        kind := .duplicateDocument
        message := "\u3000dOCUMENT ALREADY EXISTS\n"
        context := some ["books", "1"] }) := by
  have hletters :
      Text.SameLetters "Document already exists".toList "dOCUMENT ALREADY EXISTS".toList := by
    decide
  have hbefore : Text.Blank ['\u3000'] := List.forall_mem_singleton.mpr rfl
  have hafter : Text.Blank ['\n'] := List.forall_mem_singleton.mpr rfl
  have halike : Text.SpelledAlike "Document already exists" "\u3000dOCUMENT ALREADY EXISTS\n" :=
    .intro (List.append_nil _).symm rfl (List.forall_mem_nil _) (List.forall_mem_nil _) hbefore
      hafter hletters
  obtain ⟨hkind, -, hclassify⟩ := faults_spelled_alike halike
  have husual : classify usualWarning ["books", "1", "x"] = .error (.store {
      kind := .duplicateDocument
      message := "Document already exists"
      context := some ["books", "1"] }) := rfl
  exact ⟨halike, hkind.trans (by decide), husual,
    (hclassify usualWarning shoutedWarning _ _ rfl rfl).mpr ⟨_, husual, rfl⟩⟩

end FullText
