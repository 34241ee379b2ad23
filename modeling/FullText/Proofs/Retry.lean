import FullText.Retry
import Mathlib.Logic.Function.Iterate
import Mathlib.Order.Bounds.Defs

/-!
Attempts and their schedule. Attempts at an operation are runs of it, one after another. They end
with the first success, with the first error that is not worth a retry, or when the budget of the
policy is used up, and before each retry lies the delay that the policy has for it.
-/

namespace FullText

namespace RetryPolicy

variable {σ ε α : Type}

/-! ### Runs of an operation -/

/-- The state after an operation has been run a number of times. -/
def runs (operation : σ → Except ε α × σ) (times : Nat) (s : σ) : σ :=
  (fun s => (operation s).2)^[times] s

/-- The outcome of an attempt, counted from one, after all the attempts before it. -/
def outcomeAt (operation : σ → Except ε α × σ) (s : σ) (attempt : Nat) : Except ε α :=
  (operation (runs operation (attempt - 1) s)).1

section Runs

variable (operation : σ → Except ε α × σ) (times : Nat) (s : σ)

theorem runs_succ : runs operation (times + 1) s = runs operation times (operation s).2 :=
  Function.iterate_succ_apply _ times s

theorem runs_succ' : runs operation (times + 1) s = (operation (runs operation times s)).2 :=
  Function.iterate_succ_apply' _ times s

theorem outcomeAt_succ :
    outcomeAt operation s (times + 1) = (operation (runs operation times s)).1 :=
  rfl

end Runs

/-- What every run keeps, a number of runs keeps. -/
theorem runs_keeps {operation : σ → Except ε α × σ} {P : σ → Prop}
    (hkeeps : ∀ s, P s → P (operation s).2) {s : σ} (hs : P s) (times : Nat) :
    P (runs operation times s) := by
  induction times with
  | zero => exact hs
  | succ times ih =>
      rw [runs_succ']
      exact hkeeps _ ih

/-- Where every run writes an entry into a log, a number of runs writes as many. -/
theorem log_runs {β : Type} {operation : σ → Except ε α × σ} {log : σ → List β} {entry : β}
    (hlog : ∀ s, log (operation s).2 = log s ++ [entry]) (times : Nat) (s : σ) :
    log (runs operation times s) = log s ++ List.replicate times entry := by
  induction times with
  | zero => exact (List.append_nil _).symm
  | succ times ih =>
      rw [runs_succ', hlog, ih, List.append_assoc, List.replicate_succ']

/-! ### The course of attempts -/

/-- An attempt has failed, and is worth a retry. -/
def Retried (retryable : ε → Bool) (outcome : Except ε α) : Prop :=
  ∃ e, outcome = .error e ∧ retryable e = true

/-- How attempts go on after `made` earlier ones: of the retries that are left some are used, each
after an error that is worth it and a delay. -/
structure Course (policy : RetryPolicy) (retryable : ε → Bool) (operation : σ → Except ε α × σ)
    (retries made : Nat) (s : σ) (used : Nat) (attempts : Attempts σ ε α) : Prop where
  used_le : used ≤ retries
  earlier : ∀ i < used, Retried retryable (operation (runs operation i s)).1
  last : used = retries ∨ ¬Retried retryable attempts.outcome
  operation_eq : operation (runs operation used s) = (attempts.outcome, attempts.state)
  delays_eq : attempts.delays.map some = (List.range' (made + 1) used).map policy.delay?

section Course

variable {policy : RetryPolicy} {retryable : ε → Bool} {operation : σ → Except ε α × σ}
  {retries made used : Nat} {s left : σ} {outcome : Except ε α} {attempts : Attempts σ ε α}

theorem Course.single (hoperation : operation s = (outcome, left))
    (hlast : 0 = retries ∨ ¬Retried retryable outcome) :
    policy.Course retryable operation retries made s 0
      { outcome, state := left, delays := [] } where
  used_le := Nat.zero_le retries
  earlier := nofun
  last := hlast
  operation_eq := hoperation
  delays_eq := rfl

/-- Before the attempts that follow, there was one that is worth a retry. -/
theorem Course.again {e : ε} {delay : Duration}
    (hlater : policy.Course retryable operation retries (made + 1) left used attempts)
    (hoperation : operation s = (.error e, left)) (hretry : retryable e = true)
    (hdelay : policy.delay? (made + 1) = some delay) :
    policy.Course retryable operation (retries + 1) made s (used + 1)
      { attempts with delays := delay :: attempts.delays } where
  used_le := Nat.succ_le_succ hlater.used_le
  earlier := by
    intro i hi
    cases i with
    | zero => exact ⟨e, congrArg Prod.fst hoperation, hretry⟩
    | succ i =>
        rw [runs_succ, hoperation]
        exact hlater.earlier i (Nat.lt_of_succ_lt_succ hi)
  last := hlater.last.imp (congrArg (· + 1)) id
  operation_eq := by
    rw [runs_succ, hoperation]
    exact hlater.operation_eq
  delays_eq := by
    rw [List.map_cons, hlater.delays_eq, List.range'_succ, List.map_cons, hdelay]

theorem attemptsFrom_course
    (hattempts : policy.attemptsFrom retryable operation retries made s = some attempts) :
    ∃ used, policy.Course retryable operation retries made s used attempts := by
  induction retries generalizing made s attempts with
  | zero =>
      cases hattempts
      exact ⟨0, .single rfl (.inl rfl)⟩
  | succ retries ih =>
      rw [attemptsFrom] at hattempts
      split at hattempts
      case h_1 hok =>
        cases hattempts
        exact ⟨0, .single hok (.inr nofun)⟩
      case h_2 e left herror =>
        split at hattempts
        case isFalse hnot =>
          cases hattempts
          refine ⟨0, .single herror (.inr ?_)⟩
          rintro ⟨_, ⟨⟩, hretry⟩
          exact hnot hretry
        case isTrue hretry =>
          split at hattempts
          case h_1 delay hdelay =>
            obtain ⟨later, hlater, rfl⟩ := Option.map_eq_some_iff.mp hattempts
            obtain ⟨used, hcourse⟩ := ih hlater
            exact ⟨used + 1, hcourse.again herror hretry hdelay⟩
          case h_2 => cases hattempts

/-- Attempts come to an end if the delays between them are spans of time. -/
theorem attemptsFrom_isSome (retryable : ε → Bool) (operation : σ → Except ε α × σ) (s : σ)
    (hdelays : ∀ retry, made < retry → retry ≤ made + retries → (policy.delay? retry).isSome) :
    (policy.attemptsFrom retryable operation retries made s).isSome := by
  induction retries generalizing made s with
  | zero => rfl
  | succ retries ih =>
      rw [attemptsFrom]
      split
      case h_1 => rfl
      case h_2 =>
        split
        case isFalse => rfl
        case isTrue =>
          obtain ⟨delay, hdelay⟩ := Option.isSome_iff_exists.mp
            (hdelays (made + 1) (Nat.lt_succ_self made) (by omega))
          rw [hdelay]
          dsimp only
          rw [Option.isSome_map]
          exact ih _ fun retry hlow hhigh => hdelays retry (by omega) (by omega)

end Course

/-! ### Schedules -/

/-- The attempts that a policy allows. There is always one. -/
def budget (policy : RetryPolicy) : Nat :=
  max 1 policy.maxAttempts

/-- No attempt follows one with a certain outcome: it is a success, or an error that is not worth a
retry, or the attempt was the last one in the budget. -/
def EndsWith (policy : RetryPolicy) (retryable : ε → Bool) (attempt : Nat)
    (outcome : Except ε α) : Prop :=
  (∃ a, outcome = .ok a) ∨ (∃ e, outcome = .error e ∧ retryable e = false) ∨
    attempt = policy.budget

/-- Attempts keep to the schedule of a policy. There are as many as it takes for one to be the last,
with as many runs of the operation, and the delays between them are the first ones of the policy. -/
structure Scheduled (policy : RetryPolicy) (retryable : ε → Bool)
    (operation : σ → Except ε α × σ) (s : σ) (count : Nat) (attempts : Attempts σ ε α) :
    Prop where
  isLeast : IsLeast {i | 0 < i ∧ policy.EndsWith retryable i (outcomeAt operation s i)} count
  outcome_eq : attempts.outcome = outcomeAt operation s count
  state_eq : attempts.state = runs operation count s
  delays_eq : attempts.delays.map some = (List.range' 1 (count - 1)).map policy.delay?

section Schedule

variable {policy : RetryPolicy} {retryable : ε → Bool} {operation : σ → Except ε α × σ}
  {s : σ} {attempts : Attempts σ ε α} {attempt count : Nat}

theorem budget_eq (policy : RetryPolicy) : policy.budget = policy.maxAttempts - 1 + 1 := by
  rw [budget]
  omega

theorem endsWith_iff {outcome : Except ε α} : policy.EndsWith retryable attempt outcome ↔
    attempt = policy.budget ∨ ¬Retried retryable outcome := by
  cases outcome with
  | ok a => simp [EndsWith, Retried]
  | error e => simp [EndsWith, Retried, or_comm]

theorem Course.scheduled {used : Nat}
    (hcourse : policy.Course retryable operation (policy.maxAttempts - 1) 0 s used attempts) :
    policy.Scheduled retryable operation s (used + 1) attempts where
  isLeast := by
    refine ⟨⟨Nat.succ_pos used, ?_⟩, ?_⟩
    · rw [endsWith_iff, budget_eq, outcomeAt_succ, hcourse.operation_eq, Nat.add_right_cancel_iff]
      exact hcourse.last
    · rintro i ⟨hpos, hends⟩
      obtain ⟨earlier, rfl⟩ := Nat.exists_eq_add_one.mpr hpos
      rw [endsWith_iff, budget_eq, outcomeAt_succ, Nat.add_right_cancel_iff] at hends
      have hused : ¬earlier < used := by
        intro hlt
        have hspent := hcourse.used_le
        exact hends.elim (fun hlast => by omega) fun hnot => hnot (hcourse.earlier earlier hlt)
      omega
  outcome_eq := by rw [outcomeAt_succ, hcourse.operation_eq]
  state_eq := by rw [runs_succ', hcourse.operation_eq]
  delays_eq := by rw [Nat.add_sub_cancel, hcourse.delays_eq]

theorem Scheduled.count_le (hscheduled : policy.Scheduled retryable operation s count attempts) :
    count ≤ policy.budget := by
  refine hscheduled.isLeast.2 ⟨?_, .inr (.inr rfl)⟩
  rw [budget_eq]
  exact Nat.succ_pos _

/-- An attempt is only followed by another one if it is worth a retry. -/
theorem Scheduled.retried (hscheduled : policy.Scheduled retryable operation s count attempts)
    (hpos : 0 < attempt) (hlt : attempt < count) :
    Retried retryable (outcomeAt operation s attempt) := by
  by_contra hnot
  have hends : policy.EndsWith retryable attempt (outcomeAt operation s attempt) :=
    endsWith_iff.mpr (.inr hnot)
  exact absurd (hscheduled.isLeast.2 ⟨hpos, hends⟩) (Nat.not_le.mpr hlt)

/-- An attempt that is not worth a retry is the only one. -/
theorem attempt_of_not_retried {outcome : Except ε α} {left : σ} (policy : RetryPolicy)
    (hoperation : operation s = (outcome, left)) (hlast : ¬Retried retryable outcome) :
    policy.attempt retryable operation s = some { outcome, state := left, delays := [] } := by
  unfold attempt
  cases policy.maxAttempts - 1 with
  | zero => rw [attemptsFrom, hoperation]
  | succ retries =>
      rw [attemptsFrom, hoperation]
      cases outcome with
      | ok a => rfl
      | error e =>
          dsimp only
          rw [if_neg fun hretry => hlast ⟨e, rfl, hretry⟩]

theorem attempt_of_ok {a : α} {left : σ} (policy : RetryPolicy) (retryable : ε → Bool)
    (hok : operation s = (.ok a, left)) :
    policy.attempt retryable operation s = some { outcome := .ok a, state := left, delays := [] } :=
  policy.attempt_of_not_retried hok nofun

/-- The last attempt is made in a state that the earlier ones have left. -/
theorem attempt_last {P : σ → Prop} (hkeeps : ∀ s, P s → P (operation s).2) (hs : P s)
    (hattempt : policy.attempt retryable operation s = some attempts) :
    ∃ last, P last ∧ operation last = (attempts.outcome, attempts.state) := by
  obtain ⟨used, hcourse⟩ := attemptsFrom_course hattempt
  exact ⟨_, runs_keeps hkeeps hs used, hcourse.operation_eq⟩

theorem attempt_scheduled (hattempt : policy.attempt retryable operation s = some attempts) :
    ∃ count, policy.Scheduled retryable operation s count attempts := by
  obtain ⟨used, hcourse⟩ := attemptsFrom_course hattempt
  exact ⟨used + 1, hcourse.scheduled⟩

theorem attempt_isSome (retryable : ε → Bool) (operation : σ → Except ε α × σ) (s : σ)
    (hdelays : ∀ retry, 0 < retry → retry < policy.budget → (policy.delay? retry).isSome) :
    (policy.attempt retryable operation s).isSome := by
  refine attemptsFrom_isSome retryable operation s fun retry hpos hle => hdelays retry hpos ?_
  rw [budget_eq]
  omega

end Schedule

end RetryPolicy

end FullText
