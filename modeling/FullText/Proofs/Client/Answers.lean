import FullText.Client

/-!
What a client makes of the answers to a command and to a batch. Both look for known faults in the
messages of the answers. They differ over a bare failure, which has a message only for a command
that is sent alone, and over an error in the place of a reply, which fails a batch but not a command.
-/

namespace FullText

/-! ### Faults behind answers -/

namespace Reply

/-- The kind of fault that the message of a reply reports. -/
def reported? (reply : Reply) : Option FaultKind :=
  reply.message?.bind FaultKind.ofMessage?

@[simp]
theorem reported?_error (message : String) :
    (Reply.error message).reported? = FaultKind.ofMessage? message := by
  simp only [reported?, message?, Option.bind_some]

theorem isError_eq_false_iff {reply : Reply} :
    reply.isError = false ↔ ∀ message, reply ≠ .error message := by
  cases reply <;> simp [isError]

/-- A reply that does not fail the batch in which it comes. -/
structure Passes (reply : Reply) : Prop where
  unreported : reply.reported? = none
  not_error : reply.isError = false

end Reply

/-- The message that a transport has left, if any, reports no known fault. -/
abbrev Unexplained (lastError : Option String) : Prop :=
  lastError.bind FaultKind.ofMessage? = none

/-- The kind of fault behind the answer to a command that is sent alone. A bare failure has no
message but the one that the transport has left. -/
def faultBehind? (lastError : Option String) : Except TransportError Reply → Option FaultKind
  | .ok (.bool false) => lastError.bind FaultKind.ofMessage?
  | .ok reply => reply.reported?
  | .error error => FaultKind.ofMessage? error.message

/-- What a client tells of an answer: the fault behind it if that is known, and else the answer. -/
structure Tells (lastError : Option String) (answer : Except TransportError Reply)
    (result : Except Error Reply) : Prop where
  of_known : ∀ kind, faultBehind? lastError answer = some kind →
    ∃ fault, fault.kind = kind ∧ result = .error (.store fault)
  of_unknown : faultBehind? lastError answer = none → result = answer.mapError .transport

theorem Tells.eq_ok_iff {lastError : Option String} {answer : Except TransportError Reply}
    {result : Except Error Reply} (htells : Tells lastError answer result) {reply : Reply} :
    result = .ok reply ↔ answer = .ok reply ∧ faultBehind? lastError answer = none := by
  cases hbehind : faultBehind? lastError answer with
  | some kind =>
      obtain ⟨fault, -, rfl⟩ := htells.of_known kind hbehind
      simp
  | none =>
      rw [htells.of_unknown hbehind]
      cases answer with
      | ok answered =>
          change Except.ok answered = .ok reply ↔ _
          rw [Except.ok.injEq, Except.ok.injEq]
          exact (and_iff_left rfl).symm
      | error error => exact iff_of_false nofun fun hanswer => nomatch hanswer.1

theorem faultBehind?_none_ok (reply : Reply) : faultBehind? none (.ok reply) = reply.reported? := by
  cases reply with
  | bool b => cases b <;> rfl
  | _ => rfl

/-- What the transport has left counts for a bare failure only. -/
theorem faultBehind?_eq_none_left {lastError : Option String}
    {answer : Except TransportError Reply}
    (hbare : answer = .ok (.bool false) → Unexplained lastError) :
    faultBehind? lastError answer = faultBehind? none answer := by
  cases answer with
  | error error => simp only [faultBehind?]
  | ok reply =>
      cases reply with
      | bool b =>
          cases b with
          | false => exact hbare rfl
          | true => rfl
      | _ => rfl

/-! ### Classification -/

/-- The context of a fault has no part in its kind. -/
theorem Fault.kind_bind (message? : Option String) (context : List String) :
    (message?.bind (Fault.ofMessage? · context)).map Fault.kind =
      message?.bind FaultKind.ofMessage? := by
  cases message? with
  | none => rfl
  | some message =>
      simp only [Option.bind_some, Fault.ofMessage?]
      cases FaultKind.ofMessage? message with
      | none => rfl
      | some kind => rfl

theorem classify_of_known {outcome : Outcome} {kind : FaultKind} (context : List String)
    (hknown : outcome.message?.bind FaultKind.ofMessage? = some kind) :
    ∃ fault, fault.kind = kind ∧ classify outcome context = .error (.store fault) := by
  rw [← Fault.kind_bind outcome.message? context] at hknown
  obtain ⟨fault, hfault, hkind⟩ := Option.map_eq_some_iff.mp hknown
  refine ⟨fault, hkind, ?_⟩
  unfold classify
  rw [hfault]

theorem classify_thrown_of_known {error : TransportError} {kind : FaultKind}
    (context : List String) (hknown : FaultKind.ofMessage? error.message = some kind) :
    ∃ fault, fault.kind = kind ∧ classify (.thrown error) context = .error (.store fault) := by
  refine classify_of_known context ?_
  rwa [Outcome.message?, Option.bind_some]

theorem classify_thrown (error : TransportError) (context : List String) :
    ∃ told, classify (.thrown error) context = .error told := by
  unfold classify
  split
  case h_1 => exact ⟨_, rfl⟩
  case h_2 => exact ⟨_, rfl⟩

theorem replyFault?_kind (reply : Reply) (command : Option Command) :
    (replyFault? reply command).map Fault.kind = reply.reported? :=
  Fault.kind_bind reply.message? _

theorem replyFault?_eq_none_iff {reply : Reply} {command : Option Command} :
    replyFault? reply command = none ↔ reply.reported? = none := by
  rw [← replyFault?_kind reply command, Option.map_eq_none_iff]

theorem findFault?_eq_none_iff {replies : List Reply} {commands : List Command} :
    (replies.zipIdx.findSome? fun (reply, i) => replyFault? reply commands[i]?) = none ↔
      ∀ reply ∈ replies, reply.reported? = none := by
  simp only [List.findSome?_eq_none_iff, replyFault?_eq_none_iff]
  constructor
  · intro hnone reply hreply
    rw [← List.zipIdx_map_fst 0 replies] at hreply
    obtain ⟨numbered, hnumbered, rfl⟩ := List.mem_map.mp hreply
    exact hnone numbered hnumbered
  · intro hnone numbered hnumbered
    exact hnone numbered.1 (List.fst_mem_of_mem_zipIdx hnumbered)

theorem errorMessages_eq_nil_iff {replies : List Reply} :
    errorMessages replies = [] ↔ ∀ reply ∈ replies, reply.isError = false := by
  rw [errorMessages, List.filterMap_eq_nil_iff]
  refine forall₂_congr fun reply _ => ?_
  cases reply <;> simp [Reply.isError]

/-- A batch is a success if all of its replies pass, and then it tells them. -/
theorem classifyBatch_eq_ok_iff {replies kept : List Reply} {commands : List Command} :
    classifyBatch replies commands = .ok kept ↔
      kept = replies ∧ ∀ reply ∈ replies, reply.Passes := by
  have hpasses : (∀ reply ∈ replies, reply.Passes) ↔
      (∀ reply ∈ replies, reply.reported? = none) ∧ errorMessages replies = [] := by
    rw [errorMessages_eq_nil_iff]
    constructor
    · intro hall
      exact ⟨fun reply hreply => (hall reply hreply).unreported,
        fun reply hreply => (hall reply hreply).not_error⟩
    · rintro ⟨hunreported, hnoerror⟩ reply hreply
      exact ⟨hunreported reply hreply, hnoerror reply hreply⟩
  rw [hpasses, ← @findFault?_eq_none_iff replies commands]
  unfold classifyBatch
  split
  case h_1 hfault => simp [hfault]
  case h_2 hnone =>
    split
    case h_1 hclean => simp [hnone, hclean, eq_comm]
    case h_2 hfailed => simp [hfailed]

/-! ### Round trips -/

namespace Client

variable {σ : Type} [Transport σ]

section Outcome

variable (attempts : Attempts σ TransportError Reply)

theorem outcomeOf_message? :
    (outcomeOf attempts).message?.bind FaultKind.ofMessage? =
      faultBehind? (Transport.lastError attempts.state) attempts.outcome := by
  unfold outcomeOf
  cases attempts.outcome with
  | error error => simp only [Outcome.message?, Option.bind_some, faultBehind?]
  | ok reply =>
      cases reply with
      | bool b => cases b <;> rfl
      | _ => rfl

theorem outcomeOf_tells (context : List String) :
    Tells (Transport.lastError attempts.state) attempts.outcome
      (resultOf (classify (outcomeOf attempts) context)) where
  of_known kind hknown := by
    rw [← outcomeOf_message?] at hknown
    obtain ⟨fault, hkind, hclassify⟩ := classify_of_known context hknown
    exact ⟨fault, hkind, by rw [hclassify]; rfl⟩
  of_unknown hunknown := by
    rw [← outcomeOf_message?, ← Fault.kind_bind _ context, Option.map_eq_none_iff] at hunknown
    unfold classify
    rw [hunknown]
    unfold outcomeOf
    cases attempts.outcome with
    | error error => rfl
    | ok reply =>
        cases reply with
        | bool b => cases b <;> rfl
        | _ => rfl

end Outcome

/-- The last attempt at a command is the one that a client tells of. -/
theorem execute_tells {client : Client} {command : Command} {session : Session σ}
    {attempts : Attempts σ TransportError Reply}
    (hattempt : client.retry.attempt TransportError.isRetryable (Transport.execute command)
      session.transport = some attempts) :
    ∃ result after, client.execute command session = some (result, after) ∧
      after.transport = attempts.state ∧
      Tells (Transport.lastError attempts.state) attempts.outcome result :=
  ⟨_, _, by rw [execute, hattempt, Option.map_some], rfl,
    outcomeOf_tells attempts command.argTexts⟩

/-- A batch that is sent is a success if the transport has a reply to each command, and all of them
pass. -/
theorem pipeline_eq_ok_iff {commands : List Command} (hsent : commands ≠ []) {session : Session σ}
    {replies : List Reply} :
    (pipeline commands session).1 = .ok replies ↔
      (Transport.pipeline commands session.transport).1 = .ok replies ∧
        ∀ reply ∈ replies, reply.Passes := by
  have hnonempty : commands.isEmpty = false := by rwa [List.isEmpty_eq_false_iff]
  simp only [pipeline, hnonempty, Bool.false_eq_true, if_false]
  cases (Transport.pipeline commands session.transport).1 with
  | ok told =>
      rw [classifyBatch_eq_ok_iff, Except.ok.injEq, eq_comm]
      exact and_congr_right fun hsame => by rw [hsame]
  | error error =>
      obtain ⟨told, htold⟩ := classify_thrown error []
      simp [htold, Except.map]

end Client

end FullText
