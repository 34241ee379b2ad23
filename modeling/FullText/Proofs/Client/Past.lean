import FullText.Proofs.Client.Calls
import FullText.Proofs.Store.Conversation

/-!
What the past has to do with the result of a command. A store answers from its hashes and its
prepared answers; of the past nothing can show but the message that a failure has left behind. It
shows exactly when a bare `false` is prepared as a reply, because that failure leaves no message of
its own, and the client takes the one of an earlier command for its reason.
-/

namespace FullText

/-! ### Bare failures of a store -/

namespace Store

/-- The answer that is prepared to a command, in whatever case its name is written. -/
def prepared? (store : Store) (command : Command) : Option Prepared :=
  store.prepared.get? (Text.upper command.name)

variable (command : Command) (store : Store)

/-- A command that is carried out has an answer that says something, or an error. -/
theorem perform_ne_false : (perform command store).1 ≠ .ok (.bool false) := by
  unfold perform
  dsimp only
  split
  case h_1 =>
    unfold hset
    repeat' split
    all_goals nofun
  case h_2 =>
    unfold hgetall
    split
    all_goals nofun
  case h_3 =>
    unfold del
    split
    all_goals nofun
  case h_4 =>
    unfold hincrby
    split
    case h_1 =>
      split
      case h_1 => nofun
      case h_2 =>
        dsimp only
        split
        all_goals nofun
    case h_2 => nofun
  case h_5 => nofun

/-- A bare failure is prepared, as a reply or with a message. -/
theorem execute_eq_false_iff : (execute command store).1 = .ok (.bool false) ↔
    store.prepared? command = some (.reply (.bool false)) ∨
      ∃ message, store.prepared? command = some (.silent message) := by
  unfold execute prepared?
  dsimp only
  cases store.prepared.get? (Text.upper command.name) with
  | none => simp [perform_ne_false]
  | some answer => cases answer <;> simp

/-- A failure that is prepared with a message leaves it, and nothing else does. -/
theorem lastError_execute : (execute command store).2.lastError =
    match store.prepared? command with
    | some (.silent message) => some message
    | _ => store.lastError := by
  unfold execute prepared?
  dsimp only
  cases store.prepared.get? (Text.upper command.name) with
  | none =>
      dsimp only
      rw [perform_onHashes]
  | some answer => cases answer <;> rfl

/-- A failure that is not prepared as a reply leaves the message that it is prepared with. -/
theorem lastError_of_false {command : Command} {store : Store}
    (hfalse : (execute command store).1 = .ok (.bool false))
    (hreply : store.prepared? command ≠ some (.reply (.bool false))) :
    ∃ message, store.prepared? command = some (.silent message) ∧
      (execute command store).2.lastError = some message := by
  obtain ⟨message, hsilent⟩ :=
    ((execute_eq_false_iff command store).mp hfalse).resolve_left hreply
  refine ⟨message, hsilent, ?_⟩
  rw [lastError_execute, hsilent]

end Store

/-! ### Attempts from stores that are alike -/

namespace RetryPolicy

variable {σ ε α : Type} {operation : σ → Except ε α × σ} {R : σ → σ → Prop}

private theorem attemptsFrom_related (policy : RetryPolicy) (retryable : ε → Bool)
    (hstep : ∀ s t, R s t → (operation s).1 = (operation t).1 ∧ R (operation s).2 (operation t).2)
    (retries made : Nat) {s t : σ} (hrelated : R s t) :
    (policy.attemptsFrom retryable operation retries made s).map Attempts.outcome =
      (policy.attemptsFrom retryable operation retries made t).map Attempts.outcome := by
  induction retries generalizing made s t with
  | zero => exact congrArg some (hstep s t hrelated).1
  | succ retries ih =>
      obtain ⟨hanswer, hleft⟩ := hstep s t hrelated
      rcases hs : operation s with ⟨answer, s'⟩
      rcases ht : operation t with ⟨other, t'⟩
      rw [hs, ht] at hanswer hleft
      dsimp only at hanswer
      subst hanswer
      rw [attemptsFrom, attemptsFrom, hs, ht]
      cases answer with
      | ok a => rfl
      | error e =>
          dsimp only
          split
          case isFalse => rfl
          case isTrue =>
            cases policy.delay? (made + 1) with
            | none => rfl
            | some delay =>
                dsimp only
                rw [Option.map_map, Option.map_map]
                exact ih (made + 1) hleft

/-- Attempts at an operation that cannot tell related states apart come to the same outcome. -/
theorem attempt_related (policy : RetryPolicy) (retryable : ε → Bool)
    (hstep : ∀ s t, R s t → (operation s).1 = (operation t).1 ∧ R (operation s).2 (operation t).2)
    {s t : σ} (hrelated : R s t) :
    (policy.attempt retryable operation s).map Attempts.outcome =
      (policy.attempt retryable operation t).map Attempts.outcome :=
  attemptsFrom_related policy retryable hstep _ 0 hrelated

end RetryPolicy

/-! ### What a client makes of them -/

namespace Client

/-- What the store has left has a part in the outcome of a bare failure only. -/
theorem outcomeOf_congr {σ : Type} [Transport σ] {x y : Attempts σ TransportError Reply}
    (houtcome : x.outcome = y.outcome)
    (hleft : x.outcome = .ok (.bool false) →
      Transport.lastError x.state = Transport.lastError y.state) :
    outcomeOf x = outcomeOf y := by
  unfold outcomeOf
  rw [← houtcome]
  split
  case h_1 hbare => rw [hleft hbare]
  case h_2 => rfl
  case h_3 => rfl

/-- The result of a bare failure whose reason is a message that is left, if one is. -/
abbrev bareResult (context : List String) (lastError : Option String) : Except Error Reply :=
  resultOf (classify (.failed lastError) context)

theorem bareResult_of_unexplained {lastError : Option String} (context : List String)
    (hunknown : Unexplained lastError) : bareResult context lastError = .ok (.bool false) := by
  have hfault : lastError.bind (Fault.ofMessage? · context) = none := by
    rwa [← Option.map_eq_none_iff, Fault.kind_bind]
  simp only [bareResult, classify, Outcome.message?, hfault, resultOf]

/-- A known fault is told with its message. -/
theorem bareResult_of_known {lastError : Option String} {kind : FaultKind} (context : List String)
    (hknown : lastError.bind FaultKind.ofMessage? = some kind) :
    ∃ fault, bareResult context lastError = .error (.store fault) ∧
      lastError = some fault.message := by
  rw [← Fault.kind_bind lastError context] at hknown
  obtain ⟨fault, hfault, -⟩ := Option.map_eq_some_iff.mp hknown
  refine ⟨fault, ?_, ?_⟩
  · simp only [bareResult, classify, Outcome.message?, hfault, resultOf]
  · obtain ⟨message, rfl, hmessage⟩ := Option.bind_eq_some_iff.mp hfault
    obtain ⟨kind, -, rfl⟩ := Option.map_eq_some_iff.mp hmessage
    rfl

/-- Bare failures have the same result if the same message is left, or none that is understood. -/
theorem bareResult_eq_iff {context : List String} {left right : Option String} :
    bareResult context left = bareResult context right ↔
      left = right ∨ (Unexplained left ∧ Unexplained right) := by
  constructor
  · intro hsame
    cases hleft : left.bind FaultKind.ofMessage? with
    | none =>
        cases hright : right.bind FaultKind.ofMessage? with
        | none => exact .inr ⟨hleft, hright⟩
        | some kind =>
            obtain ⟨fault, hfault, -⟩ := bareResult_of_known context hright
            rw [bareResult_of_unexplained context hleft, hfault] at hsame
            cases hsame
    | some kind =>
        obtain ⟨fault, hfault, hmessage⟩ := bareResult_of_known context hleft
        cases hright : right.bind FaultKind.ofMessage? with
        | none =>
            rw [bareResult_of_unexplained context hright, hfault] at hsame
            cases hsame
        | some other =>
            obtain ⟨same, hother, hright⟩ := bareResult_of_known context hright
            rw [hfault, hother] at hsame
            cases hsame
            exact .inl (hmessage.trans hright.symm)
  · rintro (rfl | ⟨hleft, hright⟩)
    · rfl
    · rw [bareResult_of_unexplained context hleft, bareResult_of_unexplained context hright]

section Execute

variable (client : Client) {command : Command}

theorem execute_result (session : Session Store) :
    (client.execute command session).map Prod.fst =
      (client.retry.attempt TransportError.isRetryable (Store.execute command)
        session.transport).map fun attempts =>
          resultOf (classify (outcomeOf attempts) command.argTexts) := by
  rw [execute, Option.map_map]
  rfl

/-- A failure that is prepared as a reply is told at once, with the message that was left before. -/
theorem execute_of_false {session : Session Store}
    (hreply : session.transport.prepared? command = some (.reply (.bool false))) :
    (client.execute command session).map Prod.fst =
      some (bareResult command.argTexts session.transport.lastError) := by
  have hfalse := (Store.execute_eq_false_iff command session.transport).mpr (.inl hreply)
  have hleft := Store.lastError_execute command session.transport
  rw [hreply] at hleft
  dsimp only at hleft
  rw [execute_result, client.retry.attempt_of_ok TransportError.isRetryable (Prod.ext hfalse rfl),
    Option.map_some, ← hleft]
  rfl

/-- A bare failure that is not prepared as a reply has left its own message. -/
private theorem attempt_left {policy : RetryPolicy} {store : Store}
    {attempts : Attempts Store TransportError Reply}
    (hattempt : policy.attempt TransportError.isRetryable (Store.execute command) store =
      some attempts)
    (hreply : store.prepared? command ≠ some (.reply (.bool false)))
    (hfalse : attempts.outcome = .ok (.bool false)) :
    ∃ message, store.prepared? command = some (.silent message) ∧
      attempts.state.lastError = some message := by
  obtain ⟨last, hprepared, hlast⟩ := RetryPolicy.attempt_last
    (P := fun s => s.prepared = store.prepared)
    (fun s hs => (Store.prepared_execute command s).trans hs) rfl hattempt
  have hsame : last.prepared? command = store.prepared? command := by
    rw [Store.prepared?, hprepared, Store.prepared?]
  rw [← hsame] at hreply ⊢
  have hleft := Store.lastError_of_false ((congrArg Prod.fst hlast).trans hfalse) hreply
  rwa [hlast] at hleft

/-- Any other answer is told without regard to what was left before. -/
theorem execute_alike {a b : Session Store} (halike : a.transport.Alike b.transport)
    (hreply : a.transport.prepared? command ≠ some (.reply (.bool false))) :
    (client.execute command a).map Prod.fst = (client.execute command b).map Prod.fst := by
  have hprepared : a.transport.prepared? command = b.transport.prepared? command := by
    rw [Store.prepared?, halike.prepared_eq, Store.prepared?]
  have houtcome := client.retry.attempt_related TransportError.isRetryable
    (fun s t (hst : Store.Alike s t) => hst.execute command) halike
  rw [execute_result, execute_result]
  cases ha : client.retry.attempt TransportError.isRetryable (Store.execute command)
      a.transport with
  | none =>
      rw [ha] at houtcome
      rw [Option.map_eq_none_iff.mp houtcome.symm]
  | some x =>
      rw [ha] at houtcome
      obtain ⟨y, hb, hxy⟩ := Option.map_eq_some_iff.mp houtcome.symm
      rw [hb, Option.map_some, Option.map_some, outcomeOf_congr hxy.symm]
      intro hfalse
      obtain ⟨message, hsilent, hx⟩ := attempt_left ha hreply hfalse
      rw [hprepared] at hreply hsilent
      obtain ⟨same, hsame, hy⟩ := attempt_left hb hreply (hxy.trans hfalse)
      cases hsilent.symm.trans hsame
      exact hx.trans hy.symm

end Execute

/-- From stores that differ in their past only, a command has the same result unless a bare `false`
is prepared as the reply to it. Then it has the same result exactly if the stores have the same
message left over, or none that is understood. -/
theorem execute_same_iff (client : Client) (command : Command) {a b : Session Store}
    (halike : a.transport.Alike b.transport) :
    (client.execute command a).map Prod.fst = (client.execute command b).map Prod.fst ↔
      (a.transport.prepared? command = some (.reply (.bool false)) →
        a.transport.lastError = b.transport.lastError ∨
          (Unexplained a.transport.lastError ∧ Unexplained b.transport.lastError)) := by
  by_cases hreply : a.transport.prepared? command = some (.reply (.bool false))
  · have hsame : b.transport.prepared? command = some (.reply (.bool false)) := by
      rwa [Store.prepared?, ← halike.prepared_eq]
    rw [client.execute_of_false hreply, client.execute_of_false hsame, Option.some.injEq,
      bareResult_eq_iff]
    exact (imp_iff_right hreply).symm
  · exact iff_of_true (client.execute_alike halike hreply) fun h => absurd h hreply

end Client

/-- A store that makes no index in its database, and drops none. -/
def otherDatabase : Session Store where
  transport :=
    (Store.prepare {} "FT.CREATE" (.silent "Cannot create index on db != 0")).prepare
      "FT.DROPINDEX" (.reply (.bool false))

/-- The same store, which has left the message of an index that could not be made. -/
def otherDatabaseTried : Session Store where
  transport := (Store.execute (.ofTexts "FT.CREATE" ["books"]) otherDatabase.transport).2

/-- The attempt does not show when an index is made again, but it does when one is dropped. -/
theorem otherDatabase_results :
    otherDatabase.transport.Alike otherDatabaseTried.transport ∧
    (Client.execute {} (.ofTexts "FT.CREATE" ["books"]) otherDatabase).map Prod.fst =
      (Client.execute {} (.ofTexts "FT.CREATE" ["books"]) otherDatabaseTried).map Prod.fst ∧
    (Client.execute {} (.ofTexts "FT.DROPINDEX" ["books"]) otherDatabase).map Prod.fst ≠
      (Client.execute {} (.ofTexts "FT.DROPINDEX" ["books"]) otherDatabaseTried).map Prod.fst := by
  have halike : otherDatabase.transport.Alike otherDatabaseTried.transport := ⟨rfl, rfl⟩
  refine ⟨halike, ?_, ?_⟩
  · exact (Client.execute_same_iff {} (.ofTexts "FT.CREATE" ["books"]) halike).mpr nofun
  · intro hsame
    have hleft := (Client.execute_same_iff {} (.ofTexts "FT.DROPINDEX" ["books"]) halike).mp
      hsame rfl
    obtain hleft | ⟨-, hunknown⟩ := hleft
    · cases hleft
    · cases hunknown

/-- The reason why an index could not be made is told of an index that is not dropped. -/
theorem creation_error_told_of_drop :
    otherDatabase.transport.Alike otherDatabaseTried.transport ∧
    (Client.execute {} (.ofTexts "FT.DROPINDEX" ["books"]) otherDatabase).map Prod.fst =
      some (.ok (.bool false)) ∧
    (Client.execute {} (.ofTexts "FT.DROPINDEX" ["books"]) otherDatabaseTried).map Prod.fst =
      some (.error (.store
        { kind := .unsupportedDatabase, message := "Cannot create index on db != 0" })) :=
  ⟨⟨rfl, rfl⟩, rfl, rfl⟩

end FullText
