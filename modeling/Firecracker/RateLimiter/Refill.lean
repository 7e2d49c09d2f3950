import Firecracker.RateLimiter.Basic

/-!
# Firecracker.RateLimiter.Refill

What `TokenBucket::auto_replenish` generates over a run of calls. Each call turns the time since
`last_update` into `tokens = time_delta * processed_capacity / processed_refill_time`, where the
fraction is `size / (complete_refill_time_ms * 10^6)` in lowest terms, and moves `last_update` on
by `tokens * processed_refill_time / processed_capacity`, the time those tokens took, rounded down.

The rounding is not neutral: what a call drops from the time it consumed is credited again to the
next call, so calls made close together can generate a token more than one refill over the
whole interval (`refill_drift_counterexample`); they never generate fewer
(`replenishAll_ge`).

The model computes with natural numbers. The code computes in `u64`, which wraps
(`autoReplenishU64`); the two agree while the products stay below `2 ^ 64`
(`autoReplenishU64_eq`), which an idle bucket of a plausible size leaves within seconds
(`refill_overflow_counterexample`).
-/

namespace Firecracker
namespace TokenBucket

variable (b : TokenBucket) (now : Nat)

/-- The tokens `auto_replenish` generates at `now`, before the cap at `size`. -/
def refillTokens : Nat := (now - b.lastUpdate) * b.processedCapacity / b.processedRefillTime

theorem autoReplenish_eq :
    b.autoReplenish now =
      { b with
        lastUpdate := b.lastUpdate + b.refillTokens now * b.processedRefillTime / b.processedCapacity
        budget := min (b.budget + b.refillTokens now) b.size } := rfl

/-- The tokens a run of `auto_replenish` calls at the given times generates, and the bucket after
them. -/
def replenishAll : TokenBucket → List Nat → Nat × TokenBucket
  | b, [] => (0, b)
  | b, t :: ts =>
    match replenishAll (b.autoReplenish t) ts with
    | (n, b') => (b.refillTokens t + n, b')

@[simp] theorem processedCapacity_autoReplenish :
    (b.autoReplenish now).processedCapacity = b.processedCapacity := rfl

@[simp] theorem processedRefillTime_autoReplenish :
    (b.autoReplenish now).processedRefillTime = b.processedRefillTime := rfl

theorem refill_split {L d k t c r : Nat} (hd : d * c ≤ k * r) :
    (t - L) * c / r ≤ k + (t - (L + d)) * c / r := by
  rcases Nat.eq_zero_or_pos r with rfl | hr
  · simp
  have hcover : (t - L) * c ≤ (t - (L + d)) * c + k * r :=
    calc (t - L) * c ≤ ((t - (L + d)) + d) * c := Nat.mul_le_mul_right _ (by omega)
      _ = (t - (L + d)) * c + d * c := Nat.add_mul _ _ _
      _ ≤ (t - (L + d)) * c + k * r := Nat.add_le_add_left hd _
  calc (t - L) * c / r ≤ ((t - (L + d)) * c + k * r) / r := Nat.div_le_div_right hcover
    _ = (t - (L + d)) * c / r + k := Nat.add_mul_div_right _ _ hr
    _ = k + (t - (L + d)) * c / r := Nat.add_comm _ _

/-- **Never fewer.** Calls at any times before a last one at `t` generate at least the tokens of one
call over the whole interval: the time a call does not consume stays with `last_update`. -/
theorem replenishAll_ge (ts : List Nat) (t : Nat) :
    (t - b.lastUpdate) * b.processedCapacity / b.processedRefillTime ≤
      (b.replenishAll (ts ++ [t])).1 := by
  induction ts generalizing b with
  | nil => simp [replenishAll, refillTokens]
  | cons s ts ih =>
    have hrest := ih (b.autoReplenish s)
    simp only [processedCapacity_autoReplenish, processedRefillTime_autoReplenish] at hrest
    simp only [List.cons_append, replenishAll]
    exact le_trans (refill_split (Nat.div_mul_le_self _ _)) (Nat.add_le_add_left hrest _)

/-- Two calls at `0.67` ms and `1.33` ms generate four tokens of a bucket of three tokens a
millisecond; one call at `1.33` ms generates three. The first call consumes `666666` ns for its two
tokens, which took `666666.67` ns. -/
theorem refill_drift_counterexample :
    ∃ b, TokenBucket.new 3 0 1 0 = some b ∧ (b.replenishAll [666667, 1333333]).1 = 4 ∧
      (b.replenishAll [1333333]).1 = 3 :=
  ⟨_, rfl, by decide, by decide⟩

/-! ## The machine's arithmetic -/

/-- `auto_replenish` as the code computes it: `as_nanos() as u64`, and every product and sum in
`u64`, wrapping at `2 ^ 64`. -/
def autoReplenishU64 : TokenBucket :=
  let timeDelta := (now - b.lastUpdate) % 2 ^ 64
  let tokens := timeDelta * b.processedCapacity % 2 ^ 64 / b.processedRefillTime
  { b with
    lastUpdate := b.lastUpdate + tokens * b.processedRefillTime % 2 ^ 64 / b.processedCapacity
    budget := min ((b.budget + tokens) % 2 ^ 64) b.size }

theorem autoReplenishU64_eq (hdelta : (now - b.lastUpdate) * b.processedCapacity < 2 ^ 64)
    (hnow : now - b.lastUpdate < 2 ^ 64)
    (htokens : b.refillTokens now * b.processedRefillTime < 2 ^ 64)
    (hbudget : b.budget + b.refillTokens now < 2 ^ 64) :
    b.autoReplenishU64 now = b.autoReplenish now := by
  rw [autoReplenish_eq]
  simp only [autoReplenishU64, Nat.mod_eq_of_lt hnow, Nat.mod_eq_of_lt hdelta]
  rw [show (now - b.lastUpdate) * b.processedCapacity / b.processedRefillTime = b.refillTokens now
    from rfl, Nat.mod_eq_of_lt htokens, Nat.mod_eq_of_lt hbudget]

/-- A bucket of `999999937` bytes a second, emptied at creation and left idle for `18.4` s: the
time since `last_update` times `processed_capacity` passes `2 ^ 64`, so the code computes no token
at all where the bucket should have filled up. -/
theorem refill_overflow_counterexample :
    ∃ b, TokenBucket.new 999999937 0 1000 0 = some b ∧
      2 ^ 64 ≤ (18446745236 - b.lastUpdate) * b.processedCapacity ∧
      ((b.reduce b.size 0).2.autoReplenishU64 18446745236).budget = 0 ∧
      ((b.reduce b.size 0).2.autoReplenish 18446745236).budget = b.size :=
  ⟨_, rfl, by decide, by decide, by decide⟩

end TokenBucket
end Firecracker
