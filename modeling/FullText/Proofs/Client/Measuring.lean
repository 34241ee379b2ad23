import FullText.Proofs.Client.RoundTrips
import FullText.Proofs.Metrics
import FullText.Proofs.Retry.Delays
import Mathlib.Algebra.BigOperators.Group.List.Basic
import Mathlib.Algebra.GroupWithZero.Nat

/-!
What is measured against what was done. Every round trip is counted once under its label and the way
in which it ended, and timed once; every fault is counted under its kind, and every batch by its
size. Calls that make no round trip leave no measurement.
-/

namespace FullText

/-- The ways in which a round trip can end. -/
def Status.all : List Status :=
  [.success, .fault, .error]

/-- The kinds of faults. -/
def FaultKind.all : List FaultKind :=
  [.unsupportedDatabase, .unknownIndexName, .unsupportedLanguage, .ambiguousIndexOrAlias,
    .aliasNotFound, .unknownSearchCommand, .duplicateDocument]

/-! ### What a round trip is to leave -/

namespace RoundTrip

/-- The kind of fault that a round trip has ended in. -/
def faultKind? (trip : RoundTrip) : Option FaultKind :=
  trip.error?.bind fun error => error.fault?.map Fault.kind

/-- How a round trip has ended: well, in a fault of the store, or in any other error. -/
def status (trip : RoundTrip) : Status :=
  match trip.error? with
  | none => .success
  | some (.store _) => .fault
  | some _ => .error

/-- The number of commands in a batch. -/
def batchSize? : RoundTrip → Option Nat
  | .single _ _ => none
  | .batch commands _ => some commands.length

/-- The measurements of one round trip. -/
def metrics (trip : RoundTrip) : List Metric :=
  trip.batchSize?.toList.map .batchSize ++
    .roundTrip trip.label trip.status :: trip.faultKind?.toList.map .fault ++ [.timing trip.label]

theorem status_eq_fault_iff {trip : RoundTrip} :
    trip.status = .fault ↔ ∃ fault, trip.error? = some (.store fault) := by
  unfold status
  split
  case h_1 hnone => simp [hnone]
  case h_2 fault hfault => simp [hfault]
  case h_3 error hother hsome =>
    rw [hsome]
    refine iff_of_false nofun ?_
    rintro ⟨fault, hfault⟩
    exact hother fault (Option.some.inj hfault)

theorem isSome_faultKind?_iff {trip : RoundTrip} :
    trip.faultKind?.isSome ↔ trip.status = .fault := by
  rw [status_eq_fault_iff, faultKind?]
  cases trip.error? with
  | none => simp
  | some error => cases error <;> simp [Error.fault?]

section Counts

variable (trip : RoundTrip)

theorem count_roundTrip (label : String) (status : Status) :
    trip.metrics.count (.roundTrip label status) =
      if trip.label = label ∧ trip.status = status then 1 else 0 := by
  unfold metrics
  cases trip.batchSize? <;> cases trip.faultKind? <;> simp [List.count_cons]

theorem count_timing (label : String) :
    trip.metrics.count (.timing label) = if trip.label = label then 1 else 0 := by
  unfold metrics
  cases trip.batchSize? <;> cases trip.faultKind? <;> simp [List.count_cons]

theorem count_fault (kind : FaultKind) :
    trip.metrics.count (.fault kind) = if trip.faultKind? = some kind then 1 else 0 := by
  unfold metrics
  cases trip.batchSize? <;> cases trip.faultKind? <;> simp [List.count_cons]

theorem filterMap_batchSize? :
    trip.metrics.filterMap Metric.batchSize? = trip.batchSize?.toList := by
  unfold metrics
  cases trip.batchSize? <;> cases trip.faultKind? <;> simp [Metric.batchSize?]

end Counts

end RoundTrip

/-! ### What a round trip leaves -/

namespace Metric

/-- Whether a measurement is taken of round trips. -/
def ofRoundTrip : Metric → Bool
  | .roundTrip _ _ | .timing _ | .fault _ | .batchSize _ => true
  | .searchResults _ | .registeredSchemas _ => false

end Metric

namespace RoundTrip

theorem filter_metrics (trip : RoundTrip) :
    trip.metrics.filter Metric.ofRoundTrip = trip.metrics := by
  unfold metrics
  cases trip.batchSize? <;> cases trip.faultKind? <;> simp [Metric.ofRoundTrip]

end RoundTrip

namespace Client

variable {σ : Type} [Transport σ] {client : Client} {before after : Session σ}

theorem Makes.metrics {trip : RoundTrip} (hmakes : client.Makes before trip after) :
    after.metrics = before.metrics ++ trip.metrics := by
  cases hmakes with
  | @single command result _ _ hexecute =>
      obtain ⟨attempts, -, hresult⟩ := Option.map_eq_some_iff.mp hexecute
      obtain ⟨hsame, rfl⟩ := Prod.mk.inj hresult
      dsimp only
      rw [hsame]
      cases result with
      | ok reply => rfl
      | error error => cases error <;> rfl
  | @batch commands results _ _ hne hpipeline =>
      rw [pipeline, if_neg (by simpa using hne)] at hpipeline
      obtain ⟨hsame, rfl⟩ := Prod.mk.inj hpipeline
      dsimp only
      rw [hsame]
      cases results with
      | ok replies => rfl
      | error error => cases error <;> rfl

/-- Beside the numbers of documents found, the measurements are those of the round trips. -/
theorem MakesAll.metrics {trips : List RoundTrip} (hmakes : client.MakesAll before trips after) :
    after.metrics.filter Metric.ofRoundTrip =
      before.metrics.filter Metric.ofRoundTrip ++ trips.flatMap RoundTrip.metrics := by
  induction hmakes with
  | none session => exact (List.append_nil _).symm
  | trip hfirst _ ih =>
      rw [ih, hfirst.metrics, List.filter_append, RoundTrip.filter_metrics, List.append_assoc]
      rfl
  | counted documents _ ih =>
      rw [ih, List.filter_append]
      simp [Metric.ofRoundTrip]

end Client

/-! ### Sums of counts -/

section Sums

variable {α β : Type} [DecidableEq β] {key : α → β} {p : α → Prop} [DecidablePred p]
  {keys : List β}

private theorem sum_indicator (keys : List β) (found : β) :
    (keys.map fun k => if found = k then 1 else 0).sum = keys.count found := by
  induction keys with
  | nil => rfl
  | cons first keys ih =>
      rw [List.map_cons, List.sum_cons, ih, List.count_cons, Nat.add_comm]
      by_cases hfound : found = first
      · simp [hfound]
      · simp [hfound, Ne.symm hfound]

/-- What is counted under each of some keys is counted once, if every key is among them. -/
theorem sum_countP_eq (hnodup : keys.Nodup) {items : List α}
    (hkeys : ∀ item ∈ items, p item → key item ∈ keys) :
    (keys.map fun k => items.countP fun item => key item = k ∧ p item).sum = items.countP p := by
  induction items with
  | nil => simp
  | cons item items ih =>
      obtain ⟨hitem, hkeys⟩ := List.forall_mem_cons.mp hkeys
      simp only [List.countP_cons, List.sum_map_add, ih hkeys, decide_eq_true_eq]
      by_cases hp : p item
      · simp only [hp, and_true, if_true, sum_indicator, List.count_eq_one_of_mem hnodup (hitem hp)]
      · simp [hp]

end Sums

/-! ### The account -/

/-- Measurements account for round trips. -/
structure Accounts (metrics : List Metric) (trips : List RoundTrip) : Prop where
  /-- Each round trip is counted once under its label. -/
  commands : ∀ label, (Status.all.map fun status =>
    Metrics.total metrics (.roundTrip label status)).sum = trips.countP (·.label = label)
  /-- Each round trip is timed once under its label. -/
  timings : ∀ label, Metrics.total metrics (.timing label) = trips.countP (·.label = label)
  /-- Each round trip is counted under its status. -/
  statuses : ∀ label status, Metrics.total metrics (.roundTrip label status) =
    trips.countP fun trip => trip.label = label ∧ trip.status = status
  /-- Over all labels, as many round trips are counted under a status as ended so. -/
  ended : ∀ labels : List String, labels.Nodup → (∀ trip ∈ trips, trip.label ∈ labels) →
    ∀ status, (labels.map fun label => Metrics.total metrics (.roundTrip label status)).sum =
      trips.countP (·.status = status)
  /-- Each fault is counted under its kind. -/
  kinds : ∀ kind, Metrics.total metrics (.fault kind) = trips.countP (·.faultKind? = some kind)
  /-- Over all kinds, as many faults are counted as there were. -/
  faults : (FaultKind.all.map fun kind => Metrics.total metrics (.fault kind)).sum =
    trips.countP (·.status = .fault)
  /-- The size of each batch is a sample, in order. -/
  sizes : Metrics.batchSizes metrics = trips.filterMap RoundTrip.batchSize?

section Account

variable {metrics : List Metric} {trips : List RoundTrip}

/-- A measurement that a round trip leaves once or not at all is counted as often as it is left. -/
theorem total_eq_countP {metric : Metric} {p : RoundTrip → Prop} [DecidablePred p]
    (hmetrics : metrics.filter Metric.ofRoundTrip = trips.flatMap RoundTrip.metrics)
    (hcounts : metric.countsOne = true)
    (htrip : ∀ trip : RoundTrip, trip.metrics.count metric = if p trip then 1 else 0) :
    Metrics.total metrics metric = trips.countP p := by
  have hkept : metric.ofRoundTrip = true := by
    cases metric with
    | roundTrip | timing | fault => rfl
    | batchSize | searchResults | registeredSchemas => cases hcounts
  rw [Metrics.total_eq_count hcounts, ← List.count_filter hkept, hmetrics]
  clear hmetrics
  induction trips with
  | nil => rfl
  | cons trip trips ih =>
      rw [List.flatMap_cons, List.count_append, ih, htrip, List.countP_cons, Nat.add_comm]
      simp

theorem accounts_of_metrics
    (hmetrics : metrics.filter Metric.ofRoundTrip = trips.flatMap RoundTrip.metrics) :
    Accounts metrics trips := by
  have hstatuses : ∀ label status, Metrics.total metrics (.roundTrip label status) =
      trips.countP fun trip => trip.label = label ∧ trip.status = status := fun label status =>
    total_eq_countP hmetrics rfl fun trip => trip.count_roundTrip label status
  have hkinds : ∀ kind, Metrics.total metrics (.fault kind) =
      trips.countP (·.faultKind? = some kind) := fun kind =>
    total_eq_countP hmetrics rfl fun trip => trip.count_fault kind
  refine ⟨?_, ?_, hstatuses, ?_, hkinds, ?_, ?_⟩
  · intro label
    simp only [hstatuses, and_comm (a := _ = label)]
    exact sum_countP_eq (by decide) fun trip _ _ => by cases trip.status <;> decide
  · intro label
    exact total_eq_countP hmetrics rfl fun trip => trip.count_timing label
  · intro labels hnodup hlabels status
    simp only [hstatuses]
    exact sum_countP_eq hnodup fun trip htrip _ => hlabels trip htrip
  · simp only [hkinds, ← RoundTrip.isSome_faultKind?_iff]
    have hnodup : (FaultKind.all.map some).Nodup := by decide
    have hlisted : ∀ trip ∈ trips, trip.faultKind?.isSome →
        trip.faultKind? ∈ FaultKind.all.map some := by
      intro trip _ hsome
      obtain ⟨kind, hkind⟩ := Option.isSome_iff_exists.mp hsome
      rw [hkind]
      cases kind <;> decide
    rw [← sum_countP_eq hnodup hlisted, List.map_map]
    refine congrArg List.sum (List.map_congr_left fun kind _ => List.countP_congr fun trip _ => ?_)
    simp +contextual
  · have hkept : (metrics.filter Metric.ofRoundTrip).filterMap Metric.batchSize? =
        metrics.filterMap Metric.batchSize? := by
      rw [List.filterMap_filter]
      refine List.filterMap_congr fun metric _ => ?_
      cases metric <;> rfl
    rw [Metrics.batchSizes_eq, ← hkept, hmetrics, List.filterMap_flatMap,
      List.filterMap_eq_flatMap_toList]
    exact List.flatMap_congr fun trip _ => trip.filterMap_batchSize?

end Account

/-! ### Calls come to an end -/

namespace RetryPolicy

variable {σ ε α : Type} {policy : RetryPolicy}

/-- Every delay that a policy can ask for is a span of time. -/
def Computable (policy : RetryPolicy) : Prop :=
  ∀ retry, (policy.delay? retry).isSome

theorem Computable.attempt_isSome (hdelays : policy.Computable) (retryable : ε → Bool)
    (operation : σ → Except ε α × σ) (s : σ) : (policy.attempt retryable operation s).isSome :=
  RetryPolicy.attempt_isSome retryable operation s fun retry _ _ => hdelays retry

end RetryPolicy

namespace Client

variable {σ α : Type} [Transport σ] {client : Client}

theorem run_isSome (hdelays : client.retry.Computable) (dialogue : Dialogue α)
    (session : Session σ) : (client.run dialogue session).isSome := by
  induction dialogue generalizing session with
  | done result => rfl
  | send command next ih =>
      have hattempt := hdelays.attempt_isSome TransportError.isRetryable
        (Transport.execute command) session.transport
      obtain ⟨attempts, hattempts⟩ := Option.isSome_iff_exists.mp hattempt
      rw [run, execute, hattempts]
      exact ih _ _
  | sendBatch commands next ih => exact ih _ _
  | measure metric next ih => exact ih _

theorem callAll_isSome (hdelays : client.retry.Computable) (calls : List (Σ α, Call α))
    (session : Session σ) : (client.callAll calls session).isSome := by
  induction calls generalizing session with
  | nil => rfl
  | cons call calls ih =>
      have hrun := run_isSome hdelays (call.2.dialogue client) session
      obtain ⟨⟨result, after⟩, hrun⟩ := Option.isSome_iff_exists.mp hrun
      rw [callAll, hrun]
      exact ih after

end Client

/-- Under a policy whose delays are spans of time calls come to an end, and whenever calls have come
to an end, on a store in any state, what has been measured accounts for the round trips. A call in the
course of which the store has received nothing has measured nothing. -/
theorem round_trips_measured (client : Client) (store : Store) :
    (client.retry.Computable → ∀ calls : List (Σ α, Call α),
      ∃ after, client.callAll calls { transport := store } = some after) ∧
    (∀ (calls : List (Σ α, Call α)) (after : Session Store),
      client.callAll calls { transport := store } = some after →
        Accounts after.metrics (client.roundTripsOfAll calls { transport := store })) ∧
    ∀ {α : Type} (call : Call α) (session after : Session Store) (result : Except Error α),
      client.run (call.dialogue client) session = some (result, after) →
      after.transport.sent = session.transport.sent → after.metrics = session.metrics := by
  refine ⟨?_, ?_, ?_⟩
  · intro hdelays calls
    exact Option.isSome_iff_exists.mp (Client.callAll_isSome hdelays calls _)
  · intro calls after hcalls
    exact accounts_of_metrics (Client.callAll_makesAll hcalls).metrics
  · intro α call session after result hrun hsent
    have hcounts := call.countsFound client
    obtain ⟨received, hnone, -, hafter⟩ := (hcounts.makesAll hrun).converse
    rw [hafter, Store.sent_converse, List.append_right_eq_self] at hsent
    rw [hcounts.eq_of_no_trip hrun (hnone hsent)]

/-! ### An account -/

namespace RetryPolicy

/-- The usual delays double up to half a second, and stay there. -/
theorem command_computable : command.Computable :=
  delay?_isSome (by decide +kernel) (by decide +kernel) (by decide +kernel) (by decide +kernel)

end RetryPolicy

/-- A deletion that breaks off, a question that the store does not understand, a row that is written,
and a deletion that is refused. -/
def mixedCalls : List (Σ α, Call α) :=
  [⟨_, deletionBy "title"⟩, ⟨_, .indexExists books⟩,
    ⟨_, .insert [.ofList [("_key", .text "books::2"), ("title", .text "Persuasion")]]⟩,
    ⟨_, deletionBy "titel"⟩]

theorem mixed_calls_measured :
    let client : Client := { retry := .command }
    let broken := brokenSearches.transport
    client.retry.Computable ∧
    (∃ after, client.callAll mixedCalls { transport := broken } = some after ∧
      Accounts after.metrics (client.roundTripsOfAll mixedCalls { transport := broken })) ∧
    ∃ after, client.run ((deletionBy "titel").dialogue client) brokenSearches =
        some (.error (.unknownField "books" "titel"), after) ∧
      after.transport.sent = brokenSearches.transport.sent ∧
      after.metrics = brokenSearches.metrics := by
  obtain ⟨hends, haccounts, hrefused⟩ :=
    round_trips_measured { retry := .command } brokenSearches.transport
  obtain ⟨after, hafter⟩ := hends RetryPolicy.command_computable mixedCalls
  exact ⟨RetryPolicy.command_computable, ⟨after, hafter, haccounts mixedCalls after hafter⟩,
    _, rfl, rfl, hrefused (deletionBy "titel") brokenSearches _ _ rfl rfl⟩

end FullText
