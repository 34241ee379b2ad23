import FullText.Proofs.Client.Answers
import FullText.Proofs.Store.Batch

/-!
A batch of one against its command, on a store in any state. Both fail and succeed together, save
that an error in the place of a reply fails the batch only.
-/

namespace FullText

/-! ### Answers in a batch -/

/-- How an answer is told in a batch. An error answer of the store takes the place of a reply. -/
def inBatch : Except TransportError Reply → Except TransportError Reply
  | .error (.server message) => .ok (.error message)
  | answer => answer

theorem inBatch_eq_ok_iff {answer : Except TransportError Reply} {reply : Reply}
    (hreply : reply.isError = false) : inBatch answer = .ok reply ↔ answer = .ok reply := by
  unfold inBatch
  split
  case h_1 message =>
    refine iff_of_false ?_ (by simp)
    intro hok
    cases hok
    cases hreply
  case h_2 => rfl

theorem ToldAs.inBatch_eq {answer : Except TransportError Reply} {reply : Reply}
    (htold : ToldAs answer reply) : inBatch answer = .ok reply := by
  cases htold with
  | reply | error => rfl

theorem BreaksOff.inBatch_eq {answer : Except TransportError Reply} {error : TransportError}
    (hbreaks : BreaksOff answer error) : inBatch answer = .error error := by
  cases hbreaks with
  | connection | other => rfl

namespace Transport

variable {σ : Type} (execute : Command → σ → Except TransportError Reply × σ)

theorem oneByOne_cons (command : Command) (commands : List Command) (s : σ) :
    (oneByOne execute (command :: commands) s).1 =
      match inBatch (execute command s).1 with
      | .ok reply => (oneByOne execute commands (execute command s).2).1.map (reply :: ·)
      | .error error => .error error := by
  rcases told_or_breaksOff (execute command s).1 with ⟨reply, htold⟩ | ⟨error, hbreaks⟩
  · rw [oneByOne_cons_of_told htold, htold.inBatch_eq]
  · rw [oneByOne_cons_of_breaksOff hbreaks, hbreaks.inBatch_eq]

/-- A batch of one has the answer that the command has. -/
theorem oneByOne_singleton (command : Command) (s : σ) :
    (oneByOne execute [command] s).1 =
      (inBatch (execute command s).1).map fun reply => [reply] := by
  rw [oneByOne_cons]
  cases inBatch (execute command s).1 with
  | ok reply => rfl
  | error error => rfl

end Transport

/-! ### A batch of one -/

/-- A batch of one command goes as the command does alone. -/
structure Agrees (single : Except Error Reply) (batch : Except Error (List Reply)) : Prop where
  fails_iff : (∃ error, single = .error error) ↔ ∃ error, batch = .error error
  replies_eq : ∀ reply replies, single = .ok reply → batch = .ok replies → replies = [reply]
  kind_eq : ∀ fault, single = .error (.store fault) →
    ∃ same, batch = .error (.store same) ∧ same.kind = fault.kind

namespace Agrees

theorem of_ok (reply : Reply) : Agrees (.ok reply) (.ok [reply]) where
  fails_iff := by simp
  replies_eq := by
    rintro _ _ ⟨⟩ ⟨⟩
    rfl
  kind_eq := by rintro _ ⟨⟩

theorem of_known {fault same : Fault} (hkind : same.kind = fault.kind) :
    Agrees (.error (.store fault)) (.error (.store same)) where
  fails_iff := by simp
  replies_eq := by rintro _ _ ⟨⟩
  kind_eq := by
    rintro _ ⟨⟩
    exact ⟨same, rfl, hkind⟩

theorem of_unknown (error : TransportError) (told : Error) :
    Agrees (.error (.transport error)) (.error told) where
  fails_iff := by simp
  replies_eq := by rintro _ _ ⟨⟩
  kind_eq := by rintro _ ⟨⟩

end Agrees

theorem RetryPolicy.attempt_once {σ ε α : Type} {policy : RetryPolicy}
    (honce : policy.maxAttempts ≤ 1) (retryable : ε → Bool) (operation : σ → Except ε α × σ)
    (s : σ) : policy.attempt retryable operation s =
      some { outcome := (operation s).1, state := (operation s).2, delays := [] } := by
  rw [attempt, Nat.sub_eq_zero_of_le honce]
  rfl

section Single

variable {reply : Reply} {kind : FaultKind} (commands : List Command)

theorem classifyBatch_singleton_of_known (hknown : reply.reported? = some kind) :
    ∃ fault, fault.kind = kind ∧ classifyBatch [reply] commands = .error (.store fault) := by
  rw [← replyFault?_kind reply commands[0]?] at hknown
  obtain ⟨fault, hfault, hkind⟩ := Option.map_eq_some_iff.mp hknown
  refine ⟨fault, hkind, ?_⟩
  simp [classifyBatch, hfault]

theorem classifyBatch_singleton_error {message : String}
    (hunknown : FaultKind.ofMessage? message = none) :
    classifyBatch [.error message] commands = .error (.batchFailure 1 1 message) := by
  have hnone : replyFault? (.error message) commands[0]? = none :=
    replyFault?_eq_none_iff.mpr ((Reply.reported?_error message).trans hunknown)
  simp [classifyBatch, hnone, errorMessages]

end Single

namespace Client

theorem pipeline_singleton (command : Command) (session : Session Store) :
    (pipeline [command] session).1 =
      match inBatch (Store.execute command session.transport).1 with
      | .ok reply => classifyBatch [reply] [command]
      | .error error => (classify (.thrown error) []).map fun _ => [] := by
  have hbatch : (Transport.pipeline [command] session.transport).1 = _ :=
    Transport.oneByOne_singleton Store.execute command session.transport
  simp only [pipeline, List.isEmpty_cons, Bool.false_eq_true, if_false, hbatch]
  cases inBatch (Store.execute command session.transport).1 with
  | ok reply => rfl
  | error error => rfl

section Singleton

variable {command : Command} {session : Session Store} {kind : FaultKind}

theorem pipeline_singleton_of_reply {reply : Reply}
    (hanswer : (Store.execute command session.transport).1 = .ok reply) :
    (pipeline [command] session).1 = classifyBatch [reply] [command] := by
  rw [pipeline_singleton, hanswer]
  rfl

/-- A known fault is told by a batch as it is by the command, if its message has come with the
answer. -/
theorem pipeline_singleton_of_known
    (hknown : faultBehind? none (Store.execute command session.transport).1 = some kind) :
    ∃ fault, fault.kind = kind ∧ (pipeline [command] session).1 = .error (.store fault) := by
  cases hanswer : (Store.execute command session.transport).1 with
  | ok reply =>
      rw [hanswer, faultBehind?_none_ok] at hknown
      rw [pipeline_singleton_of_reply hanswer]
      exact classifyBatch_singleton_of_known [command] hknown
  | error error =>
      rw [hanswer, faultBehind?] at hknown
      rw [pipeline_singleton, hanswer]
      cases error with
      | server message =>
          exact classifyBatch_singleton_of_known [command]
            ((Reply.reported?_error message).trans hknown)
      | connection message | other message =>
          obtain ⟨fault, hkind, hfault⟩ := classify_thrown_of_known [] hknown
          exact ⟨fault, hkind, congrArg (Except.map _) hfault⟩

theorem pipeline_singleton_of_error {error : TransportError}
    (hanswer : (Store.execute command session.transport).1 = .error error)
    (hunknown : FaultKind.ofMessage? error.message = none) :
    ∃ told, (pipeline [command] session).1 = .error told := by
  rw [pipeline_singleton, hanswer]
  cases error with
  | server message => exact ⟨_, classifyBatch_singleton_error [command] hunknown⟩
  | connection message | other message =>
      obtain ⟨told, htold⟩ := classify_thrown _ []
      exact ⟨told, congrArg (Except.map _) htold⟩

end Singleton

end Client

/-- A command that is sent once, and a batch of it alone. An error in the place of a reply is handed
back by the command and fails the batch; else both go the same way, unless the transport has the
message of a known fault for a bare failure. -/
theorem batch_of_one (client : Client) (command : Command) (session : Session Store)
    (honce : client.retry.maxAttempts ≤ 1)
    (hbare : (Store.execute command session.transport).1 = .ok (.bool false) →
      Unexplained (Store.execute command session.transport).2.lastError) :
    ∃ single after, client.execute command session = some (single, after) ∧
      (∀ message, single = .ok (.error message) →
        (Client.pipeline [command] session).1 = .error (.batchFailure 1 1 message)) ∧
      ((∀ message, single ≠ .ok (.error message)) →
        Agrees single (Client.pipeline [command] session).1) := by
  obtain ⟨single, after, hexecute, -, htells⟩ := Client.execute_tells
    (RetryPolicy.attempt_once honce TransportError.isRetryable (Transport.execute command)
      session.transport)
  refine ⟨single, after, hexecute, ?_⟩
  change Tells (Store.execute command session.transport).2.lastError
    (Store.execute command session.transport).1 single at htells
  -- The batch does not see what the transport has left, which matters for a bare failure only.
  have hbehind : faultBehind? (Store.execute command session.transport).2.lastError
      (Store.execute command session.transport).1 =
      faultBehind? none (Store.execute command session.transport).1 :=
    faultBehind?_eq_none_left hbare
  cases hkind : faultBehind? none (Store.execute command session.transport).1 with
  | some kind =>
      obtain ⟨fault, hfault, rfl⟩ := htells.of_known kind (hbehind.trans hkind)
      obtain ⟨same, hsame, hbatch⟩ := Client.pipeline_singleton_of_known hkind
      rw [hbatch]
      exact ⟨nofun, fun _ => .of_known (hsame.trans hfault.symm)⟩
  | none =>
      rw [htells.of_unknown (hbehind.trans hkind)]
      cases hanswer : (Store.execute command session.transport).1 with
      | error error =>
          rw [hanswer] at hkind
          obtain ⟨told, hbatch⟩ := Client.pipeline_singleton_of_error hanswer hkind
          rw [hbatch]
          exact ⟨nofun, fun _ => .of_unknown error told⟩
      | ok reply =>
          rw [hanswer, faultBehind?_none_ok] at hkind
          rw [Client.pipeline_singleton_of_reply hanswer]
          constructor
          · rintro message ⟨⟩
            rw [Reply.reported?_error] at hkind
            exact classifyBatch_singleton_error [command] hkind
          · intro hnoerror
            have hpasses : reply.Passes :=
              ⟨hkind, Reply.isError_eq_false_iff.mpr fun message hreply =>
                hnoerror message (congrArg Except.ok hreply)⟩
            rw [classifyBatch_eq_ok_iff.mpr ⟨rfl, List.forall_mem_singleton.mpr hpasses⟩]
            exact .of_ok reply

/-- A store that knows no index, and answers to a ping with an error in the place of a reply. -/
def unindexed : Session Store where
  transport :=
    (Store.prepare {} "FT.INFO" (.error (.server "books: no such index"))).prepare
      "PING" (.reply (.error "WRONGTYPE"))

/-- An index that is not there is the same fault for a batch; the ping fails in a batch only. -/
theorem unindexed_batches :
    (∃ after fault same, Client.execute {} (.ofTexts "FT.INFO" ["books"]) unindexed =
        some (.error (.store fault), after) ∧
      (Client.pipeline [.ofTexts "FT.INFO" ["books"]] unindexed).1 = .error (.store same) ∧
      same.kind = fault.kind) ∧
    ∃ after, Client.execute {} (.ofTexts "PING" []) unindexed =
        some (.ok (.error "WRONGTYPE"), after) ∧
      (Client.pipeline [.ofTexts "PING" []] unindexed).1 =
        .error (.batchFailure 1 1 "WRONGTYPE") := by
  constructor
  · obtain ⟨single, after, hexecute, -, hagrees⟩ :=
      batch_of_one {} (.ofTexts "FT.INFO" ["books"]) unindexed (Nat.le_refl 1) nofun
    have hsingle : (Client.execute {} (.ofTexts "FT.INFO" ["books"]) unindexed).map Prod.fst =
        some (.error (.store
          { kind := .unknownIndexName, message := "books: no such index" })) := rfl
    rw [hexecute] at hsingle
    obtain rfl := Option.some.inj hsingle
    obtain ⟨same, hbatch, hkind⟩ := (hagrees nofun).kind_eq _ rfl
    exact ⟨after, _, same, hexecute, hbatch, hkind⟩
  · obtain ⟨single, after, hexecute, hfailure, -⟩ :=
      batch_of_one {} (.ofTexts "PING" []) unindexed (Nat.le_refl 1) nofun
    have hsingle : (Client.execute {} (.ofTexts "PING" []) unindexed).map Prod.fst =
        some (.ok (.error "WRONGTYPE")) := rfl
    rw [hexecute] at hsingle
    obtain rfl := Option.some.inj hsingle
    exact ⟨after, hexecute, hfailure "WRONGTYPE" rfl⟩

/-- The ping does not go in a batch as it does alone. -/
theorem error_reply_disagrees :
    ∃ single after, Client.execute {} (.ofTexts "PING" []) unindexed = some (single, after) ∧
      ¬Agrees single (Client.pipeline [.ofTexts "PING" []] unindexed).1 := by
  refine ⟨_, _, rfl, fun hagrees => ?_⟩
  obtain ⟨error, herror⟩ := hagrees.fails_iff.mpr ⟨_, rfl⟩
  cases herror

end FullText
