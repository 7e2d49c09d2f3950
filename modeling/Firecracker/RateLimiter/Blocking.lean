import Firecracker.RateLimiter.Basic
import Firecracker.Lib.Run
import Mathlib.Algebra.Order.Floor.Semifield

/-!
# Firecracker.RateLimiter.Blocking

A blocked rate limiter (`timer_active`) is unblocked only by `event_handler`, which a device calls
when the limiter's timer has expired: the limiter relies on every `consume` that blocks it arming
the timer with a positive duration.

`consume` arms `refill_time * ratio` milliseconds after an over-consumption, where the ratio is
the over-consumed remainder over the bucket's size (`consume_overConsumption`). When the remainder
times the refill time is below the size, that duration is `0`, which disarms the timer: the limiter
is blocked with no expiration to come (`Stuck`), and no later operation on it (`LimiterOp`) ever
unblocks it (`run_stuck`).
-/

namespace Firecracker

open Run

/-! ## Over-consumption -/

namespace TokenBucket

variable {b : TokenBucket} {tokens now : Nat}

@[simp] theorem autoReplenish_size : (b.autoReplenish now).size = b.size := rfl

@[simp] theorem autoReplenish_refillTime : (b.autoReplenish now).refillTime = b.refillTime := rfl

theorem autoReplenish_budget_of_full (h : b.budget = b.size) : (b.autoReplenish now).budget = b.size := by
  simp only [autoReplenish, h]
  exact Nat.min_eq_right (Nat.le_add_right _ _)

theorem reduce_overConsumption (hburst : b.oneTimeBurst = 0) (hfull : b.budget = b.size)
    (hover : b.size < tokens) :
    b.reduce tokens now =
      (.overConsumption (((tokens - b.size : Nat) : ℚ) / b.size),
        { b.autoReplenish now with budget := 0 }) := by
  have hbudget : (b.autoReplenish now).budget = b.size := autoReplenish_budget_of_full hfull
  unfold reduce reduceBudget
  rw [if_neg (by omega), if_pos (by omega)]
  dsimp only
  rw [if_pos (by rw [autoReplenish_size]; exact hover), hbudget, autoReplenish_size]

end TokenBucket

theorem floor_overConsumption_ratio (remainder size refillTime : Nat) :
    ⌊((remainder : ℚ) / size) * refillTime⌋₊ = remainder * refillTime / size := by
  rw [div_mul_eq_mul_div, ← Nat.cast_mul, Nat.floor_div_eq_div]

namespace RateLimiter

variable {rl : RateLimiter} {tokenType : TokenType} {b : TokenBucket} {tokens now : Nat}

theorem consume_overConsumption (hactive : rl.timerActive = false) (hb : rl.bucket tokenType = some b)
    (hburst : b.oneTimeBurst = 0) (hfull : b.budget = b.size) (hover : b.size < tokens) :
    rl.consume tokens tokenType now =
      (true, (rl.setBucket tokenType { b.autoReplenish now with budget := 0 }).activateTimer
        ((tokens - b.size) * b.refillTime / b.size)) := by
  unfold consume
  rw [if_neg (by simp [hactive]), hb]
  dsimp only
  rw [TokenBucket.reduce_overConsumption hburst hfull hover]
  dsimp only
  rw [floor_overConsumption_ratio]

/-! ## Blocked for good -/

/-- The operations on a limiter: the device's calls, and the expiry of its timer. -/
inductive LimiterOp where
  | consume (tokens : Nat) (tokenType : TokenType) (now : Nat)
  | manualReplenish (tokens : Nat) (tokenType : TokenType)
  | eventHandler
  | timerFires

/-- One operation; a failed `event_handler` leaves the limiter as it is. -/
def step (rl : RateLimiter) : LimiterOp → Option RateLimiter
  | .consume tokens tokenType now => some (rl.consume tokens tokenType now).2
  | .manualReplenish tokens tokenType => some (rl.manualReplenish tokens tokenType)
  | .eventHandler =>
    match rl.eventHandler with
    | .ok rl' => some rl'
    | .error _ => some rl
  | .timerFires => some { rl with timerFd := rl.timerFd.fire }

/-- Blocked with no wake-up to come: the timer is active, disarmed, and has not expired. -/
def Stuck (rl : RateLimiter) : Prop :=
  rl.timerActive = true ∧ rl.timerFd.armed = none ∧ rl.timerFd.expirations = 0

@[simp] theorem setBucket_timerActive {b : TokenBucket} :
    (rl.setBucket tokenType b).timerActive = rl.timerActive := by
  cases tokenType <;> rfl

@[simp] theorem setBucket_timerFd {b : TokenBucket} :
    (rl.setBucket tokenType b).timerFd = rl.timerFd := by
  cases tokenType <;> rfl

theorem manualReplenish_timer (rl : RateLimiter) (tokens : Nat) (tokenType : TokenType) :
    (rl.manualReplenish tokens tokenType).timerActive = rl.timerActive ∧
      (rl.manualReplenish tokens tokenType).timerFd = rl.timerFd := by
  unfold manualReplenish
  split <;> simp

theorem step_stuck {op : LimiterOp} {rl' : RateLimiter} (h : rl.Stuck) (hs : step rl op = some rl') :
    rl'.Stuck := by
  obtain ⟨hactive, harmed, hexp⟩ := h
  cases op with
  | consume tokens tokenType now =>
    cases hs
    simp only [consume, hactive, if_true]
    exact ⟨hactive, harmed, hexp⟩
  | manualReplenish tokens tokenType =>
    cases hs
    obtain ⟨ha, hfd⟩ := manualReplenish_timer rl tokens tokenType
    exact ⟨ha ▸ hactive, hfd ▸ harmed, hfd ▸ hexp⟩
  | eventHandler =>
    have herr : rl.eventHandler = .error .spuriousRateLimiterEvent := by
      simp [eventHandler, TimerFd.read, hexp]
    simp only [step, herr] at hs
    cases hs
    exact ⟨hactive, harmed, hexp⟩
  | timerFires =>
    cases hs
    simp only [TimerFd.fire, harmed]
    exact ⟨hactive, harmed, hexp⟩

theorem run_stuck {ops : List LimiterOp} {rl' : RateLimiter} (h : rl.Stuck)
    (hrun : Run.run step rl ops = some rl') : rl'.Stuck :=
  Run.run_inv (I := Stuck) (fun _ _ _ hi hs => step_stuck hi hs) ops h hrun

/-- **A rate limiter blocked for good.** An unblocked limiter with no unread expiration whose
bucket for the token type is full and has no one-time burst, asked for more tokens than the
bucket's size, where the remainder times the refill time is below the size: `consume` succeeds
and arms the timer with `0` milliseconds, which disarms it. The limiter is then blocked, and after
every run of operations it is still blocked, with every `consume` failing. -/
theorem consume_blocks_forever (hactive : rl.timerActive = false)
    (hexp : rl.timerFd.expirations = 0) (hb : rl.bucket tokenType = some b)
    (hburst : b.oneTimeBurst = 0) (hfull : b.budget = b.size) (hover : b.size < tokens)
    (hsmall : (tokens - b.size) * b.refillTime < b.size) :
    (rl.consume tokens tokenType now).1 = true ∧
      ∀ (ops : List LimiterOp) (rl' : RateLimiter),
        Run.run step (rl.consume tokens tokenType now).2 ops = some rl' →
        rl'.timerActive = true ∧ ∀ tokens' tokenType' now',
          (rl'.consume tokens' tokenType' now').1 = false := by
  rw [consume_overConsumption hactive hb hburst hfull hover, Nat.div_eq_of_lt hsmall]
  have hstuck : ((rl.setBucket tokenType { b.autoReplenish now with budget := 0 }).activateTimer
      0).Stuck := by
    simp [Stuck, activateTimer, TimerFd.setOneshot, hexp]
  refine ⟨rfl, fun ops rl' hrun => ?_⟩
  have h' := run_stuck hstuck hrun
  refine ⟨h'.1, fun tokens' tokenType' now' => ?_⟩
  simp [consume, h'.1]

/-- The same for a limiter of 1000 bytes refilled in 100 ms, asked for 1005 bytes at once. -/
theorem consume_blocks_forever_newLimiter :
    (RateLimiter.new 1000 0 100 0 0 0 0).timerActive = false ∧
    (RateLimiter.new 1000 0 100 0 0 0 0).timerFd.expirations = 0 ∧
    (RateLimiter.new 1000 0 100 0 0 0 0).bucket .bytes =
      TokenBucket.new 1000 0 100 0 ∧
    ((RateLimiter.new 1000 0 100 0 0 0 0).consume 1005 .bytes 0).1 = true ∧
      ∀ (ops : List LimiterOp) (rl' : RateLimiter),
        Run.run step ((RateLimiter.new 1000 0 100 0 0 0 0).consume 1005 .bytes 0).2 ops =
          some rl' →
        rl'.timerActive = true ∧ ∀ tokens' tokenType' now',
          (rl'.consume tokens' tokenType' now').1 = false :=
  ⟨rfl, rfl, rfl,
    consume_blocks_forever (b := ⟨1000, 0, 100, 0, 1000, 0, 1, 100000⟩) rfl rfl rfl rfl rfl
      (by decide) (by decide)⟩

/-- **A zero-millisecond timer.** A new limiter with a bytes bucket of 1000 tokens refilled in
100 ms, asked for 1005 bytes at the instant it was made: the bucket is emptied, the 5 bytes left
over make a ratio of `5 / 1000`, and `(0.005 * 100) as u64 = 0`. `consume` succeeds and leaves
the limiter with `timer_active` set and its timer disarmed. -/
theorem zeroTimer_counterexample :
    (RateLimiter.new 1000 0 100 0 0 0 0).consume 1005 .bytes 0 =
      (true, ⟨some ⟨1000, 0, 100, 0, 0, 0, 1, 100000⟩, none, ⟨none, 0⟩, true⟩) := by
  rw [consume_overConsumption (b := ⟨1000, 0, 100, 0, 1000, 0, 1, 100000⟩) rfl rfl rfl rfl
    (by decide)]
  decide

end RateLimiter

end Firecracker
