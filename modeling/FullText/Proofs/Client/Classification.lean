import FullText.Proofs.Client.Answers
import FullText.Proofs.Except

/-!
Classification of batches. The first reply whose message is a known fault decides, whatever stands
before it; without one the errors are counted, and without errors all the replies are handed back.
-/

namespace FullText

/-! ### The first fault -/

/-- A reply has a message that reports a kind of fault. -/
def Reply.Reports (reply : Reply) (message : String) (kind : FaultKind) : Prop :=
  reply.message? = some message ∧ FaultKind.ofMessage? message = some kind

theorem Reply.reported?_eq_none_iff {reply : Reply} :
    reply.reported? = none ↔ ∀ message kind, ¬reply.Reports message kind := by
  simp only [reported?, Option.eq_none_iff_forall_ne_some, ne_eq, Option.bind_eq_some_iff, Reports]
  constructor
  · intro hnone message kind hreports
    exact hnone kind ⟨message, hreports⟩
  · rintro hnone kind ⟨message, hreports⟩
    exact hnone message kind hreports

/-- The fault that a message reports, as it is raised. With a document that is there already go the
first two arguments of the command at the same place. -/
def raisedFault (message : String) (kind : FaultKind) (command : Option Command) : Fault where
  kind
  message
  context :=
    if kind = .duplicateDocument then some (((command.map Command.argTexts).getD []).take 2)
    else none

theorem replyFault?_eq_some_iff {reply : Reply} {command : Option Command} {fault : Fault} :
    replyFault? reply command = some fault ↔
      ∃ message kind, reply.Reports message kind ∧ fault = raisedFault message kind command := by
  simp only [replyFault?, Option.bind_eq_some_iff, Fault.ofMessage?, Option.map_eq_some_iff,
    Reply.Reports]
  constructor
  · rintro ⟨message, hmessage, kind, hkind, rfl⟩
    exact ⟨message, kind, ⟨hmessage, hkind⟩, rfl⟩
  · rintro ⟨message, kind, ⟨hmessage, hkind⟩, rfl⟩
    exact ⟨message, hmessage, kind, hkind, rfl⟩

section Faults

variable {replies : List Reply} {commands : List Command}

theorem findFault?_eq_some_iff {fault : Fault} :
    (replies.zipIdx.findSome? fun (reply, i) => replyFault? reply commands[i]?) = some fault ↔
      ∃ before reply after, replies = before ++ reply :: after ∧
        replyFault? reply commands[before.length]? = some fault ∧
        ∀ earlier ∈ before, earlier.reported? = none := by
  have hnone (before : List Reply) :
      (∀ numbered ∈ before.zipIdx, replyFault? numbered.1 commands[numbered.2]? = none) ↔
        ∀ earlier ∈ before, earlier.reported? = none := by
    rw [← @findFault?_eq_none_iff before commands]
    exact List.findSome?_eq_none_iff.symm
  simp only [findSome?_zipIdx_eq_some_iff, hnone]

theorem exists_findFault?_iff :
    (∃ fault, (replies.zipIdx.findSome? fun (reply, i) => replyFault? reply commands[i]?) =
      some fault) ↔ ∃ reply ∈ replies, ∃ message kind, reply.Reports message kind := by
  rw [← Option.ne_none_iff_exists', Ne, findFault?_eq_none_iff]
  simp only [Reply.reported?_eq_none_iff, not_forall, not_not, exists_prop]

end Faults

/-! ### Error replies -/

theorem length_errorMessages (replies : List Reply) :
    (errorMessages replies).length = replies.countP Reply.isError := by
  induction replies with
  | nil => rfl
  | cons reply replies ih =>
      rw [List.countP_cons, ← ih]
      cases reply <;> rfl

/-- The first error message is that of the first error. -/
theorem errorMessages_eq_cons_iff {replies : List Reply} {first : String} :
    (∃ rest, errorMessages replies = first :: rest) ↔ ∃ before after,
      replies = before ++ .error first :: after ∧ ∀ earlier ∈ before, earlier.isError = false := by
  constructor
  · rintro ⟨rest, hmessages⟩
    obtain ⟨before, reply, after, rfl, hbefore, hfirst, -⟩ := List.filterMap_eq_cons_iff.mp hmessages
    have hreply : reply = .error first := by
      cases reply <;> cases hfirst
      rfl
    exact ⟨before, after, hreply ▸ rfl,
      errorMessages_eq_nil_iff.mp (List.filterMap_eq_nil_iff.mpr hbefore)⟩
  · rintro ⟨before, after, rfl, hbefore⟩
    have hnone := errorMessages_eq_nil_iff.mpr hbefore
    refine ⟨errorMessages after, ?_⟩
    rw [errorMessages, List.filterMap_append, ← errorMessages, hnone]
    rfl

/-! ### Batches -/

/-- What a batch of replies is classified as. -/
inductive BatchClassified (replies : List Reply) (commands : List Command) :
    Except Error (List Reply) → Prop where
  /-- The first reply that reports a known fault raises it. -/
  | fault {before after : List Reply} {reply : Reply} {message : String} {kind : FaultKind}
      (hreplies : replies = before ++ reply :: after)
      (hbefore : ∀ earlier ∈ before, earlier.reported? = none)
      (hreports : reply.Reports message kind) :
      BatchClassified replies commands
        (.error (.store (raisedFault message kind commands[before.length]?)))
  /-- No fault is known, and the errors are counted. -/
  | failures {before after : List Reply} {first : String}
      (hunreported : ∀ reply ∈ replies, reply.reported? = none)
      (hreplies : replies = before ++ .error first :: after)
      (hbefore : ∀ earlier ∈ before, earlier.isError = false) :
      BatchClassified replies commands
        (.error (.batchFailure (replies.countP Reply.isError) replies.length first))
  /-- Nothing has failed. -/
  | kept (hpasses : ∀ reply ∈ replies, reply.Passes) :
      BatchClassified replies commands (.ok replies)

section Batches

variable {replies : List Reply} {commands : List Command}

theorem classifyBatch_eq_store_iff {fault : Fault} :
    classifyBatch replies commands = .error (.store fault) ↔
      (replies.zipIdx.findSome? fun (reply, i) => replyFault? reply commands[i]?) = some fault := by
  unfold classifyBatch
  split
  case h_1 hfault => simp [hfault]
  case h_2 hnone => split <;> simp [hnone]

theorem classifyBatch_eq_failure_iff {failed total : Nat} {first : String} :
    classifyBatch replies commands = .error (.batchFailure failed total first) ↔
      (∀ reply ∈ replies, reply.reported? = none) ∧ (∃ rest, errorMessages replies = first :: rest) ∧
        failed = replies.countP Reply.isError ∧ total = replies.length := by
  rw [← @findFault?_eq_none_iff replies commands, ← length_errorMessages]
  unfold classifyBatch
  split
  case h_1 hfault => simp [hfault]
  case h_2 hnone =>
    split
    case h_1 hclean => simp [hclean]
    case h_2 message rest hfailed =>
      simp only [hnone, hfailed, true_and, Except.error.injEq, Error.batchFailure.injEq,
        List.cons.injEq, exists_and_left, exists_eq', and_true, List.length_cons]
      constructor
      · rintro ⟨rfl, rfl, rfl⟩
        exact ⟨rfl, rfl, rfl⟩
      · rintro ⟨rfl, rfl, rfl⟩
        exact ⟨rfl, rfl, rfl⟩

/-- A batch fails for a fault or in part. -/
theorem classifyBatch_error_cases {error : Error}
    (herror : classifyBatch replies commands = .error error) :
    (∃ fault, error = .store fault) ∨
      ∃ failed total first, error = .batchFailure failed total first := by
  unfold classifyBatch at herror
  split at herror
  case h_1 fault _ =>
    cases herror
    exact .inl ⟨fault, rfl⟩
  case h_2 =>
    split at herror
    case h_1 => cases herror
    case h_2 =>
      cases herror
      exact .inr ⟨_, _, _, rfl⟩

theorem classifyBatch_eq_iff {result : Except Error (List Reply)} :
    classifyBatch replies commands = result ↔ BatchClassified replies commands result := by
  constructor
  · rintro rfl
    cases hresult : classifyBatch replies commands with
    | ok kept =>
        obtain ⟨rfl, hpasses⟩ := classifyBatch_eq_ok_iff.mp hresult
        exact .kept hpasses
    | error error =>
        rcases classifyBatch_error_cases hresult with ⟨fault, rfl⟩ | ⟨failed, total, first, rfl⟩
        · obtain ⟨before, reply, after, hreplies, hreply, hbefore⟩ :=
            findFault?_eq_some_iff.mp (classifyBatch_eq_store_iff.mp hresult)
          obtain ⟨message, kind, hreports, rfl⟩ := replyFault?_eq_some_iff.mp hreply
          exact .fault hreplies hbefore hreports
        · obtain ⟨hunreported, hmessages, rfl, rfl⟩ := classifyBatch_eq_failure_iff.mp hresult
          obtain ⟨before, after, hreplies, hbefore⟩ := errorMessages_eq_cons_iff.mp hmessages
          exact .failures hunreported hreplies hbefore
  · intro hclassified
    cases hclassified with
    | @fault before after reply message kind hreplies hbefore hreports =>
        have hreply : replyFault? reply commands[before.length]? = some _ :=
          replyFault?_eq_some_iff.mpr ⟨message, kind, hreports, rfl⟩
        exact classifyBatch_eq_store_iff.mpr (findFault?_eq_some_iff.mpr
          ⟨before, reply, after, hreplies, hreply, hbefore⟩)
    | @failures before after first hunreported hreplies hbefore =>
        have hmessages := errorMessages_eq_cons_iff.mpr ⟨before, after, hreplies, hbefore⟩
        exact classifyBatch_eq_failure_iff.mpr ⟨hunreported, hmessages, rfl, rfl⟩
    | kept hpasses => exact classifyBatch_eq_ok_iff.mpr ⟨rfl, hpasses⟩

end Batches

/-- A batch is classified in two passes. It fails for a fault exactly when the message of some reply
reports a known one, and the first such reply decides, with the command at its place. Otherwise it
fails in part exactly when some reply is an error; all errors are counted and the first is told.
Otherwise all replies are handed back in order. -/
theorem batch_classified (replies : List Reply) (commands : List Command) :
    ((∃ fault, classifyBatch replies commands = .error (.store fault)) ↔
      ∃ reply ∈ replies, ∃ message kind, reply.Reports message kind) ∧
    ((∃ failed total first,
        classifyBatch replies commands = .error (.batchFailure failed total first)) ↔
      (∀ reply ∈ replies, ∀ message kind, ¬reply.Reports message kind) ∧
        ∃ reply ∈ replies, reply.isError = true) ∧
    ∀ result, classifyBatch replies commands = result ↔
      BatchClassified replies commands result := by
  refine ⟨?_, ?_, fun result => classifyBatch_eq_iff⟩
  · simp only [classifyBatch_eq_store_iff, exists_findFault?_iff]
  · have hsome : (∃ first rest, errorMessages replies = first :: rest) ↔
        ∃ reply ∈ replies, reply.isError = true := by
      rw [← List.ne_nil_iff_exists_cons, Ne, errorMessages_eq_nil_iff]
      simp
    simp only [classifyBatch_eq_failure_iff, Reply.reported?_eq_none_iff, ← hsome]
    constructor
    · rintro ⟨failed, total, first, hunreported, hmessages, -⟩
      exact ⟨hunreported, first, hmessages⟩
    · rintro ⟨hunreported, first, hmessages⟩
      exact ⟨_, _, first, hunreported, hmessages, rfl, rfl⟩

/-- Replies to a batch that adds books, of which the last one is there already. -/
def bookReplies : List Reply :=
  [.error "WRONGTYPE", .ok, .error "Document already exists"]

def bookCommands : List Command :=
  [.ofTexts "HSET" ["books::1", "title", "Emma"], .ofTexts "HSET" ["books::2", "title", "Persuasion"],
    .ofTexts "FT.ADD" ["books", "books::3", "1.0", "FIELDS"]]

/-- An error that is not known stands first, but the fault is raised. Without the last reply the error
is counted. -/
theorem book_batch_classified :
    classifyBatch bookReplies bookCommands = .error (.store {
      kind := .duplicateDocument
      message := "Document already exists"
      context := some ["books", "books::3"] }) ∧
    classifyBatch (bookReplies.take 2) bookCommands = .error (.batchFailure 1 2 "WRONGTYPE") := by
  obtain ⟨-, -, hall⟩ := batch_classified bookReplies bookCommands
  obtain ⟨-, -, htwo⟩ := batch_classified (bookReplies.take 2) bookCommands
  have hfault : bookReplies =
      [.error "WRONGTYPE", .ok] ++ .error "Document already exists" :: [] := rfl
  have herror : bookReplies.take 2 = [] ++ .error "WRONGTYPE" :: [.ok] := rfl
  constructor
  · exact (hall _).mpr (.fault hfault (by decide) ⟨rfl, by decide⟩)
  · exact (htwo _).mpr (.failures (by decide) herror nofun)

end FullText
