import Mathlib.Algebra.Order.Floor.Semiring
import Mathlib.Data.Rat.Floor

/-!
# Firecracker.RateLimiter.Basic

`rate_limiter/src/lib.rs`: token buckets and the rate limiter that blocks a device until its
timer fires.

Time is an input: every function that reads `Instant::now()` takes the current time `now` in
nanoseconds. The `f64` ratio of an over-consumption is the exact rational `tokens / size`, and the
cast of `ratio * refill_time` to `u64` is its floor. The limiter's `TimerFd` is the duration it is
armed with and the expirations not yet read; as Linux `timerfd_settime` does, arming a one-shot
timer with a zero duration disarms it (`TimerFd.setOneshot`), and only an armed timer fires.
-/

namespace Firecracker

def RateLimiter.refillTimerIntervalMs : Nat := 100
def TokenBucket.nanosecInOneMillisec : Nat := 1000000

/-! ## Token buckets -/

inductive BucketReduction where
  | failure
  | success
  | overConsumption (ratio : ℚ)
  deriving DecidableEq, Repr

structure TokenBucket where
  size : Nat
  initialOneTimeBurst : Nat
  refillTime : Nat
  oneTimeBurst : Nat
  budget : Nat
  lastUpdate : Nat
  processedCapacity : Nat
  processedRefillTime : Nat
  deriving DecidableEq, Repr

namespace TokenBucket

/-- `TokenBucket::new`: no bucket when the size or the refill time is zero; `gcd` is Euclid's loop,
`Nat.gcd`. -/
def new (size oneTimeBurst completeRefillTimeMs now : Nat) : Option TokenBucket :=
  if size = 0 ∨ completeRefillTimeMs = 0 then none
  else
    let completeRefillTimeNs := completeRefillTimeMs * nanosecInOneMillisec
    let commonFactor := Nat.gcd size completeRefillTimeNs
    some { size, oneTimeBurst, initialOneTimeBurst := oneTimeBurst
           refillTime := completeRefillTimeMs, budget := size, lastUpdate := now
           processedCapacity := size / commonFactor
           processedRefillTime := completeRefillTimeNs / commonFactor }

/-- `auto_replenish`: the tokens earned since `last_update`, which moves on by the time they took. -/
def autoReplenish (b : TokenBucket) (now : Nat) : TokenBucket :=
  let timeDelta := now - b.lastUpdate
  let tokens := timeDelta * b.processedCapacity / b.processedRefillTime
  { b with
    lastUpdate := b.lastUpdate + tokens * b.processedRefillTime / b.processedCapacity
    budget := min (b.budget + tokens) b.size }

/-- The part of `reduce` after the one-time burst: take `tokens` from the budget, replenishing
first when it is short. -/
def reduceBudget (b : TokenBucket) (tokens now : Nat) : BucketReduction × TokenBucket :=
  if tokens > b.budget then
    let b := b.autoReplenish now
    if tokens > b.size then
      let tokens := tokens - b.budget
      (.overConsumption ((tokens : ℚ) / b.size), { b with budget := 0 })
    else if tokens > b.budget then (.failure, b)
    else (.success, { b with budget := b.budget - tokens })
  else (.success, { b with budget := b.budget - tokens })

def reduce (b : TokenBucket) (tokens now : Nat) : BucketReduction × TokenBucket :=
  if b.oneTimeBurst > 0 then
    if b.oneTimeBurst ≥ tokens then
      (.success, { b with oneTimeBurst := b.oneTimeBurst - tokens, lastUpdate := now })
    else reduceBudget { b with oneTimeBurst := 0 } (tokens - b.oneTimeBurst) now
  else reduceBudget b tokens now

/-- `force_replenish`: during the one-time burst the tokens go to the burst. -/
def forceReplenish (b : TokenBucket) (tokens : Nat) : TokenBucket :=
  if b.oneTimeBurst > 0 then { b with oneTimeBurst := b.oneTimeBurst + tokens }
  else { b with budget := min (b.budget + tokens) b.size }

end TokenBucket

/-! ## The rate limiter -/

inductive TokenType where
  | bytes
  | ops
  deriving DecidableEq, Repr

/-- The limiter's `TimerFd`: the duration of the one-shot timer it is armed with, in milliseconds,
and the expirations since the last read. -/
structure TimerFd where
  armed : Option Nat
  expirations : Nat
  deriving DecidableEq, Repr

namespace TimerFd

/-- `set_state(TimerState::Oneshot(ms))`: a zero duration disarms the timer. -/
def setOneshot (t : TimerFd) (ms : Nat) : TimerFd :=
  { t with armed := if ms = 0 then none else some ms }

/-- The timer expires: an armed one-shot timer disarms and counts one expiration. -/
def fire (t : TimerFd) : TimerFd :=
  match t.armed with
  | some _ => { armed := none, expirations := t.expirations + 1 }
  | none => t

def read (t : TimerFd) : Nat × TimerFd := (t.expirations, { t with expirations := 0 })

end TimerFd

structure RateLimiter where
  bandwidth : Option TokenBucket
  ops : Option TokenBucket
  timerFd : TimerFd
  timerActive : Bool
  deriving DecidableEq, Repr

inductive RateLimiter.Error where
  | spuriousRateLimiterEvent
  deriving DecidableEq, Repr

namespace RateLimiter

def new (bytesTotalCapacity bytesOneTimeBurst bytesCompleteRefillTimeMs opsTotalCapacity
    opsOneTimeBurst opsCompleteRefillTimeMs now : Nat) : RateLimiter :=
  { bandwidth := TokenBucket.new bytesTotalCapacity bytesOneTimeBurst bytesCompleteRefillTimeMs now
    ops := TokenBucket.new opsTotalCapacity opsOneTimeBurst opsCompleteRefillTimeMs now
    timerFd := ⟨none, 0⟩, timerActive := false }

def bucket (rl : RateLimiter) : TokenType → Option TokenBucket
  | .bytes => rl.bandwidth
  | .ops => rl.ops

def setBucket (rl : RateLimiter) (tokenType : TokenType) (b : TokenBucket) : RateLimiter :=
  match tokenType with
  | .bytes => { rl with bandwidth := some b }
  | .ops => { rl with ops := some b }

/-- `activate_timer` with a one-shot duration in milliseconds. -/
def activateTimer (rl : RateLimiter) (ms : Nat) : RateLimiter :=
  { rl with timerFd := rl.timerFd.setOneshot ms, timerActive := true }

/-- `RateLimiter::consume`: whether the tokens could be taken, and the limiter afterwards. -/
def consume (rl : RateLimiter) (tokens : Nat) (tokenType : TokenType) (now : Nat) :
    Bool × RateLimiter :=
  if rl.timerActive then (false, rl)
  else
    match rl.bucket tokenType with
    | none => (true, rl)
    | some b =>
      let refillTime := b.refillTime
      let (reduction, b) := b.reduce tokens now
      let rl := rl.setBucket tokenType b
      match reduction with
      | .failure => (false, if !rl.timerActive then rl.activateTimer refillTimerIntervalMs else rl)
      | .success => (true, rl)
      | .overConsumption ratio => (true, rl.activateTimer ⌊ratio * refillTime⌋₊)

def manualReplenish (rl : RateLimiter) (tokens : Nat) (tokenType : TokenType) : RateLimiter :=
  match rl.bucket tokenType with
  | some b => rl.setBucket tokenType (b.forceReplenish tokens)
  | none => rl

def isBlocked (rl : RateLimiter) : Bool := rl.timerActive

/-- `event_handler`: an error unless the timer has expired since the last read. -/
def eventHandler (rl : RateLimiter) : Except Error RateLimiter :=
  let (expirations, timerFd) := rl.timerFd.read
  match expirations with
  | 0 => .error .spuriousRateLimiterEvent
  | _ => .ok { rl with timerFd, timerActive := false }

end RateLimiter

end Firecracker
