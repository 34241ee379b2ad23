import FullText.Proofs.Duration
import FullText.Retry

/-!
Delays between attempts. A delay grows by a factor and is then cut to the greatest one, so no delay is
longer than that; but the product is taken first, and where it does not fit in a span there is no
delay at all. If that happens neither to the initial delay nor to the greatest one, it never does.
-/

namespace FullText

namespace Duration

theorem shorter_nanos (a b : Duration) : (a.shorter b).nanos = min a.nanos b.nanos := by
  unfold shorter
  split <;> omega

end Duration

namespace RetryPolicy

variable {policy : RetryPolicy} {delay : Duration} {times : Nat}

/-! ### Growth -/

/-- The next delay. -/
def next? (policy : RetryPolicy) (delay : Duration) : Option Duration :=
  (delay.scale? policy.factor).map fun longer => longer.shorter policy.maxDelay

theorem grow?_succ (policy : RetryPolicy) (times : Nat) (delay : Duration) :
    policy.grow? (times + 1) delay = (policy.next? delay).bind (policy.grow? times) := by
  rw [grow?, next?]
  cases delay.scale? policy.factor <;> rfl

/-- The last delay has grown from the one before it. -/
theorem grow?_succ' (policy : RetryPolicy) (times : Nat) (delay : Duration) :
    policy.grow? (times + 1) delay = (policy.grow? times delay).bind policy.next? := by
  induction times generalizing delay with
  | zero =>
      rw [grow?_succ]
      exact Option.bind_fun_some _
  | succ times ih =>
      rw [grow?_succ, grow?_succ policy times, Option.bind_assoc]
      exact Option.bind_congr fun longer _ => ih longer

theorem next?_eq_none_iff : policy.next? delay = .none ↔ delay.scale? policy.factor = .none :=
  Option.map_eq_none_iff

theorem next?_le {longer : Duration} (hnext : policy.next? delay = some longer) :
    longer.nanos ≤ policy.maxDelay.nanos := by
  obtain ⟨product, -, rfl⟩ := Option.map_eq_some_iff.mp hnext
  rw [Duration.shorter_nanos]
  exact Nat.min_le_right _ _

/-- There is no delay after some growth exactly when one on the way to it cannot grow. -/
theorem grow?_eq_none_iff : policy.grow? times delay = .none ↔
    ∃ earlier < times, ∃ reached, policy.grow? earlier delay = some reached ∧
      reached.scale? policy.factor = .none := by
  induction times with
  | zero => exact iff_of_false nofun fun ⟨_, hless, _⟩ => Nat.not_lt_zero _ hless
  | succ times ih =>
      rw [grow?_succ']
      constructor
      · intro hnone
        cases hgrown : policy.grow? times delay with
        | none =>
            obtain ⟨earlier, hless, hreached⟩ := ih.mp hgrown
            exact ⟨earlier, Nat.lt_succ_of_lt hless, hreached⟩
        | some reached =>
            rw [hgrown, Option.bind_some, next?_eq_none_iff] at hnone
            exact ⟨times, Nat.lt_succ_self times, reached, hgrown, hnone⟩
      · rintro ⟨earlier, hless, reached, hgrown, hnone⟩
        rcases Nat.eq_or_lt_of_le (Nat.le_of_lt_succ hless) with rfl | hless
        · rw [hgrown, Option.bind_some]
          exact next?_eq_none_iff.mpr hnone
        · rw [ih.mpr ⟨earlier, hless, reached, hgrown, hnone⟩, Option.bind_none]

section Factor

variable (hfinite : policy.factor.isFinite) (hfactor : 0 ≤ policy.factor)
include hfinite hfactor

/-- Where the greatest delay can grow, every delay can that has grown itself. -/
theorem grow?_isSome (hgreatest : (policy.maxDelay.scale? policy.factor).isSome)
    (hdelay : (delay.scale? policy.factor).isSome) (times : Nat) :
    (policy.grow? times delay).isSome := by
  induction times generalizing delay with
  | zero => rfl
  | succ times ih =>
      obtain ⟨product, hproduct⟩ := Option.isSome_iff_exists.mp hdelay
      have hnext : policy.next? delay = some (product.shorter policy.maxDelay) := by
        rw [next?, hproduct]
        rfl
      rw [grow?_succ, hnext]
      exact ih (Duration.scale?_isSome_of_le hfinite hfactor (next?_le hnext) hgreatest)

theorem delay?_isSome (hgreatest : (policy.maxDelay.scale? policy.factor).isSome)
    (hinitial : (policy.initialDelay.scale? policy.factor).isSome) (retry : Nat) :
    (policy.delay? retry).isSome := by
  unfold delay?
  rw [Option.isSome_map]
  exact grow?_isSome hfinite hfactor hgreatest hinitial (retry - 1)

end Factor

/-- Under a finite factor that is not negative no delay is longer than the greatest one. There is
no delay before a retry exactly when some delay on the way to it, multiplied by the factor, does not
fit in 64 bits of seconds; and if neither the initial delay nor the greatest one grows so long, there
is a delay before every retry. -/
theorem delays_bounded (policy : RetryPolicy) (hfinite : policy.factor.isFinite)
    (hfactor : 0 ≤ policy.factor) :
    (∀ retry delay, policy.delay? retry = some delay →
      delay.nanos ≤ policy.maxDelay.nanos) ∧
    (∀ retry, policy.delay? retry = .none ↔
      ∃ times delay, times + 1 < retry ∧ policy.grow? times policy.initialDelay = some delay ∧
        ¬ policy.factor * delay.seconds < Duration.tooLong) ∧
    (policy.factor * policy.initialDelay.seconds < Duration.tooLong →
      policy.factor * policy.maxDelay.seconds < Duration.tooLong →
        ∀ retry, (policy.delay? retry).isSome) := by
  have hfits (delay : Duration) : ¬ policy.factor * delay.seconds < Duration.tooLong ↔
      delay.scale? policy.factor = .none := by
    rw [← Duration.scale?_isSome_iff hfinite hfactor, Option.not_isSome_iff_eq_none]
  refine ⟨?_, ?_, ?_⟩
  · intro retry delay hdelay
    obtain ⟨grown, -, rfl⟩ := Option.map_eq_some_iff.mp hdelay
    rw [Duration.shorter_nanos]
    exact Nat.min_le_right _ _
  · intro retry
    unfold delay?
    rw [Option.map_eq_none_iff, grow?_eq_none_iff]
    simp only [hfits]
    constructor
    · rintro ⟨times, hless, delay, hgrown, hnone⟩
      exact ⟨times, delay, by omega, hgrown, hnone⟩
    · rintro ⟨times, delay, hless, hgrown, hnone⟩
      exact ⟨times, by omega, delay, hgrown, hnone⟩
  · intro hinitial hgreatest retry
    rw [← Duration.scale?_isSome_iff hfinite hfactor] at hinitial hgreatest
    exact delay?_isSome hfinite hfactor hgreatest hinitial retry

/-- There is a delay before every retry of connecting, and none is longer than two seconds. -/
theorem connect_delays_bounded :
    connect.factor.isFinite ∧ 0 ≤ connect.factor ∧
      ∀ retry, ∃ delay, connect.delay? retry = some delay ∧ delay.nanos ≤ 2000000000 := by
  have hfinite : connect.factor.isFinite := by decide +kernel
  have hfactor : 0 ≤ connect.factor := by decide +kernel
  obtain ⟨hbounded, -, hdelays⟩ := delays_bounded connect hfinite hfactor
  refine ⟨hfinite, hfactor, fun retry => ?_⟩
  have hsome := hdelays (by decide +kernel) (by decide +kernel) retry
  obtain ⟨delay, hdelay⟩ := Option.isSome_iff_exists.mp hsome
  exact ⟨delay, hdelay, hbounded retry delay hdelay⟩

/-- Delays that are to grow to the greatest one at once. -/
def steep : RetryPolicy where
  initialDelay := .ofMillis 100
  maxDelay := .ofMillis 5000
  factor := 1e30
  maxAttempts := 3

/-- A product that does not fit in a span is not cut to the greatest delay: there is no delay. -/
theorem steep_delay_lost :
    steep.factor.isFinite ∧ 0 ≤ steep.factor ∧ steep.delay? 1 = some (.ofMillis 100) ∧
      steep.delay? 2 = .none := by
  refine ⟨?_, ?_, ?_, ?_⟩ <;> decide +kernel

end RetryPolicy

end FullText
