import FullText.Duration

/-!
Retrying with growing delays. A policy bounds the number of attempts and says how long to wait
before each retry; `RetryPolicy.attempt` makes the attempts at an operation on a state.
-/

namespace FullText

/-- How often something is tried, and how long to wait in between. -/
structure RetryPolicy where
  initialDelay : Duration
  maxDelay : Duration
  factor : Float
  /-- All attempts, the first one included; there is always a first one. -/
  maxAttempts : Nat

namespace RetryPolicy

/-- For connecting: five attempts within about three seconds. -/
def connect : RetryPolicy where
  initialDelay := .ofMillis 200
  maxDelay := .ofMillis 2000
  factor := 2
  maxAttempts := 5

/-- For single commands: two quick retries. This is the usual policy. -/
def command : RetryPolicy where
  initialDelay := .ofMillis 50
  maxDelay := .ofMillis 500
  factor := 2
  maxAttempts := 3

/-- A single attempt. -/
def none : RetryPolicy where
  initialDelay := .ofMillis 0
  maxDelay := .ofMillis 0
  factor := 1
  maxAttempts := 1

/-- The delay after it has grown a number of times, each time up to the greatest delay only. -/
def grow? (policy : RetryPolicy) : (times : Nat) → Duration → Option Duration
  | 0, delay => some delay
  | times + 1, delay =>
    match delay.scale? policy.factor with
    | some longer => policy.grow? times (longer.shorter policy.maxDelay)
    | .none => .none

/-- The delay before a retry, counted from one. There is none if some delay on the way to it is no
span of time. -/
def delay? (policy : RetryPolicy) (retry : Nat) : Option Duration :=
  (policy.grow? (retry - 1) policy.initialDelay).map fun delay => delay.shorter policy.maxDelay

end RetryPolicy

/-- How the attempts at an operation went: the last outcome, the state that they left, and the
delays between them. -/
structure Attempts (σ ε α : Type) where
  outcome : Except ε α
  state : σ
  delays : List Duration

namespace Attempts

variable {σ ε α : Type}

/-- The milliseconds after which each attempt began. -/
def startTimes (attempts : Attempts σ ε α) : List Nat :=
  attempts.delays.foldl (fun times delay => times ++ [times.getLastD 0 + delay.ticks]) [0]

/-- The milliseconds spent between the attempts. -/
def waited (attempts : Attempts σ ε α) : Nat :=
  attempts.delays.foldl (fun total delay => total + delay.ticks) 0

end Attempts

namespace RetryPolicy

variable {σ ε α : Type}

/-- The attempts after `made` earlier ones, of which `retries` may be retries. -/
def attemptsFrom (policy : RetryPolicy) (retryable : ε → Bool) (operation : σ → Except ε α × σ) :
    (retries made : Nat) → σ → Option (Attempts σ ε α)
  | 0, _, s =>
    let (outcome, s) := operation s
    some { outcome, state := s, delays := [] }
  | retries + 1, made, s =>
    match operation s with
    | (.ok a, s) => some { outcome := .ok a, state := s, delays := [] }
    | (.error e, s) =>
      if retryable e then
        match policy.delay? (made + 1) with
        | some delay =>
          (policy.attemptsFrom retryable operation retries (made + 1) s).map fun attempts =>
            { attempts with delays := delay :: attempts.delays }
        | .none => .none
      else some { outcome := .error e, state := s, delays := [] }

/-- Tries an operation until it succeeds, fails with an error that is not worth a retry, or the
attempts are used up. There is no result if a delay that is needed is no span of time. -/
def attempt (policy : RetryPolicy) (retryable : ε → Bool) (operation : σ → Except ε α × σ) (s : σ) :
    Option (Attempts σ ε α) :=
  policy.attemptsFrom retryable operation (policy.maxAttempts - 1) 0 s

end RetryPolicy

end FullText
