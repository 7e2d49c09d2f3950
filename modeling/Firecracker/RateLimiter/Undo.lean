import Firecracker.RateLimiter.Blocking
import Firecracker.Block.Engine
import Firecracker.Net.Rx

/-!
# Firecracker.RateLimiter.Undo

What a `consume` that fails, and the undo in `Request::rate_limit` and
`Net::rate_limiter_consume_op`, leave in the buckets of a limiter that `RateLimiter::new` made and
that has been used since.

Every such bucket is `Sound`: its size is positive, its budget at most its size, and full while
the one-time burst lasts, since `reduce` takes from the burst before the budget and
`force_replenish` gives back to the burst while it lasts. A `reduce` that fails on a sound bucket
found no burst and only refilled the budget, so a failed `consume` leaves its bucket as it was or
refilled by time (`Sound.consume_false`). An `Ops` token taken and given back comes back where it
came from, except the last token of the one-time burst: `force_replenish` then finds the burst
over and adds the token to the budget, which is full, so the token is lost, as the comment of
`force_replenish` accepts (`Sound.undoOps`).
-/

namespace Firecracker

namespace TokenBucket

variable {b : TokenBucket} {tokens now : Nat}

structure Sound (b : TokenBucket) : Prop where
  size_pos : 0 < b.size
  budget_le : b.budget ≤ b.size
  burst_full : 0 < b.oneTimeBurst → b.budget = b.size

theorem Sound.of_noBurst (hpos : 0 < b.size) (hle : b.budget ≤ b.size) (hburst : b.oneTimeBurst = 0) :
    b.Sound :=
  ⟨hpos, hle, fun h => absurd hburst (Nat.pos_iff_ne_zero.1 h)⟩

theorem Sound.new {size burst refillTime now : Nat} (h : new size burst refillTime now = some b) :
    b.Sound := by
  unfold TokenBucket.new at h
  split at h
  · cases h
  · cases h
    exact ⟨by dsimp only; omega, le_rfl, fun _ => rfl⟩

@[simp] theorem autoReplenish_oneTimeBurst : (b.autoReplenish now).oneTimeBurst = b.oneTimeBurst := rfl

theorem Sound.autoReplenish (h : b.Sound) (now : Nat) : (b.autoReplenish now).Sound where
  size_pos := h.size_pos
  budget_le := Nat.min_le_right _ _
  burst_full hburst := autoReplenish_budget_of_full (h.burst_full hburst)

theorem Sound.reduceBudget (h : b.Sound) (hburst : b.oneTimeBurst = 0) :
    (b.reduceBudget tokens now).2.Sound := by
  have ha : (b.autoReplenish now).Sound := h.autoReplenish now
  have hle := ha.budget_le
  unfold TokenBucket.reduceBudget
  split
  · dsimp only
    split
    · exact .of_noBurst ha.size_pos (Nat.zero_le _) hburst
    split
    · exact ha
    · exact .of_noBurst ha.size_pos (by dsimp only; omega) hburst
  · exact .of_noBurst h.size_pos (by have := h.budget_le; dsimp only; omega) hburst

theorem Sound.reduce (h : b.Sound) : (b.reduce tokens now).2.Sound := by
  unfold TokenBucket.reduce
  split
  · rename_i hpos
    split
    · exact ⟨h.size_pos, h.budget_le, fun _ => h.burst_full hpos⟩
    · exact Sound.reduceBudget (.of_noBurst h.size_pos h.budget_le rfl) rfl
  · exact h.reduceBudget (by omega)

theorem Sound.forceReplenish (h : b.Sound) : (b.forceReplenish tokens).Sound := by
  unfold TokenBucket.forceReplenish
  split
  · rename_i hpos
    exact ⟨h.size_pos, h.budget_le, fun _ => h.burst_full hpos⟩
  · exact .of_noBurst h.size_pos (Nat.min_le_right _ _) (by dsimp only; omega)

theorem reduceBudget_failure (hf : (b.reduceBudget tokens now).1 = .failure) :
    (b.reduceBudget tokens now).2 = b.autoReplenish now ∧ b.budget < tokens ∧ tokens ≤ b.size := by
  unfold TokenBucket.reduceBudget at hf ⊢
  split at hf
  · rename_i hshort
    rw [if_pos hshort]
    dsimp only at hf ⊢
    split at hf
    · cases hf
    rename_i hfit
    split at hf
    · rename_i hover
      rw [if_neg hfit, if_pos hover]
      exact ⟨rfl, hshort, by simpa using hfit⟩
    · cases hf
  · cases hf

/-- **A `reduce` that fails on a sound bucket found no burst and only refilled the budget**: a
burst left means a full budget, which covers what the burst does not, or is over-consumed. -/
theorem Sound.reduce_failure (h : b.Sound) (hf : (b.reduce tokens now).1 = .failure) :
    b.oneTimeBurst = 0 ∧ (b.reduce tokens now).2 = b.autoReplenish now := by
  unfold TokenBucket.reduce at hf ⊢
  split at hf
  · rename_i hpos
    split at hf
    · cases hf
    obtain ⟨-, hshort, hfit⟩ := reduceBudget_failure hf
    have hfull := h.burst_full hpos
    dsimp only at hshort hfit
    omega
  · rename_i hnone
    rw [if_neg hnone]
    exact ⟨by omega, (reduceBudget_failure hf).1⟩

/-- **One token taken and given back.** A `reduce 1` that succeeds followed by `force_replenish 1`
leaves the burst and the budget as they were, or the bucket refilled by time; but a token taken
from the last unit of the one-time burst goes back to the budget, which is full: the burst is
over and the token lost. -/
theorem Sound.undoOps (h : b.Sound) (hok : (b.reduce 1 now).1 ≠ .failure) :
    (((b.reduce 1 now).2.forceReplenish 1).oneTimeBurst = b.oneTimeBurst ∧
        ((b.reduce 1 now).2.forceReplenish 1).budget = b.budget) ∨
      (b.reduce 1 now).2.forceReplenish 1 = b.autoReplenish now ∨
      (b.oneTimeBurst = 1 ∧ ((b.reduce 1 now).2.forceReplenish 1).oneTimeBurst = 0 ∧
        ((b.reduce 1 now).2.forceReplenish 1).budget = b.budget) := by
  unfold TokenBucket.reduce at hok ⊢
  by_cases hburst : b.oneTimeBurst > 0
  · have hfull := h.burst_full hburst
    rw [if_pos hburst, if_pos (by omega)]
    dsimp only
    unfold TokenBucket.forceReplenish
    split
    · exact .inl ⟨by dsimp only; omega, rfl⟩
    · rename_i hlast
      dsimp only at hlast
      exact .inr (.inr ⟨by omega, by dsimp only; omega, by dsimp only; omega⟩)
  · have hle := h.budget_le
    have hpos := h.size_pos
    rw [if_neg hburst] at hok ⊢
    unfold TokenBucket.reduceBudget at hok ⊢
    by_cases hempty : 1 > b.budget
    · have hle' := (h.autoReplenish now).budget_le
      rw [if_pos hempty] at hok ⊢
      dsimp only at hok ⊢
      rw [if_neg (by simp; omega)] at hok ⊢
      by_cases hfit : 1 > (b.autoReplenish now).budget
      · rw [if_pos hfit] at hok
        exact absurd rfl hok
      rw [if_neg hfit]
      dsimp only
      unfold TokenBucket.forceReplenish
      rw [if_neg (by simp; omega)]
      refine .inr (.inl ?_)
      have hmin : min ((b.autoReplenish now).budget - 1 + 1) (b.autoReplenish now).size =
          (b.autoReplenish now).budget := by
        omega
      simp only [hmin]
    · rw [if_neg hempty]
      dsimp only
      unfold TokenBucket.forceReplenish
      rw [if_neg (by dsimp only; omega)]
      exact .inl ⟨rfl, by dsimp only; omega⟩

end TokenBucket

namespace RateLimiter

variable {rl : RateLimiter} {t t' : TokenType} {b : TokenBucket} {tokens now : Nat}

def Sound (rl : RateLimiter) : Prop := ∀ t b, rl.bucket t = some b → b.Sound

def IsNew (rl : RateLimiter) : Prop :=
  ∃ bytesTotalCapacity bytesOneTimeBurst bytesCompleteRefillTimeMs opsTotalCapacity
    opsOneTimeBurst opsCompleteRefillTimeMs now,
    rl = new bytesTotalCapacity bytesOneTimeBurst bytesCompleteRefillTimeMs opsTotalCapacity
      opsOneTimeBurst opsCompleteRefillTimeMs now

@[simp] theorem bucket_setBucket_self : (rl.setBucket t b).bucket t = some b := by
  cases t <;> rfl

theorem bucket_setBucket_of_ne (h : t' ≠ t) : (rl.setBucket t b).bucket t' = rl.bucket t' := by
  cases t <;> cases t' <;> first | rfl | exact absurd rfl h

@[simp] theorem bucket_withTimer {timerFd : TimerFd} {timerActive : Bool} :
    ({ rl with timerFd, timerActive } : RateLimiter).bucket t = rl.bucket t := by
  cases t <;> rfl

theorem consume_snd (tokens now : Nat) (hactive : rl.timerActive = false) (hb : rl.bucket t = some b) :
    ∃ timerFd timerActive, (rl.consume tokens t now).2 =
      { rl.setBucket t (b.reduce tokens now).2 with timerFd, timerActive } := by
  unfold consume
  rw [if_neg (by simp [hactive]), hb]
  dsimp only
  split
  · split
    · exact ⟨_, _, rfl⟩
    · exact ⟨_, _, rfl⟩
  · exact ⟨_, _, rfl⟩
  · exact ⟨_, _, rfl⟩

theorem consume_of_timerActive (tokens now : Nat) (h : rl.timerActive = true) :
    rl.consume tokens t now = (false, rl) := by
  unfold consume
  rw [if_pos h]

theorem consume_of_bucket_none (tokens now : Nat) (hactive : rl.timerActive = false)
    (hb : rl.bucket t = none) : rl.consume tokens t now = (true, rl) := by
  unfold consume
  rw [if_neg (by simp [hactive]), hb]

theorem consume_eq_false_iff (hactive : rl.timerActive = false) (hb : rl.bucket t = some b) :
    (rl.consume tokens t now).1 = false ↔ (b.reduce tokens now).1 = .failure := by
  unfold consume
  rw [if_neg (by simp [hactive]), hb]
  dsimp only
  rcases b.reduce tokens now with ⟨_ | _ | _, b'⟩ <;> simp

theorem bucket_consume_of_ne (h : t' ≠ t) (tokens now : Nat) :
    (rl.consume tokens t now).2.bucket t' = rl.bucket t' := by
  cases hactive : rl.timerActive
  · cases hb : rl.bucket t with
    | none => rw [consume_of_bucket_none tokens now hactive hb]
    | some b =>
      obtain ⟨timerFd, timerActive, heq⟩ := consume_snd tokens now hactive hb
      rw [heq, bucket_withTimer, bucket_setBucket_of_ne h]
  · rw [consume_of_timerActive tokens now hactive]

theorem bucket_manualReplenish_of_ne (h : t' ≠ t) (tokens : Nat) :
    (rl.manualReplenish tokens t).bucket t' = rl.bucket t' := by
  unfold manualReplenish
  split
  · exact bucket_setBucket_of_ne h
  · rfl

theorem Sound.new {bytesTotalCapacity bytesOneTimeBurst bytesCompleteRefillTimeMs opsTotalCapacity
    opsOneTimeBurst opsCompleteRefillTimeMs now : Nat} :
    (new bytesTotalCapacity bytesOneTimeBurst bytesCompleteRefillTimeMs opsTotalCapacity
      opsOneTimeBurst opsCompleteRefillTimeMs now).Sound := by
  intro t b hb
  cases t <;> exact TokenBucket.Sound.new hb

theorem Sound.setBucket (h : rl.Sound) (hb : b.Sound) : (rl.setBucket t b).Sound := by
  intro t' b' hb'
  by_cases ht : t' = t
  · subst ht
    rw [bucket_setBucket_self, Option.some.injEq] at hb'
    exact hb' ▸ hb
  · rw [bucket_setBucket_of_ne ht] at hb'
    exact h t' b' hb'

theorem Sound.consume (h : rl.Sound) : (rl.consume tokens t now).2.Sound := by
  cases hactive : rl.timerActive
  · cases hb : rl.bucket t with
    | none =>
      rw [consume_of_bucket_none tokens now hactive hb]
      exact h
    | some b =>
      obtain ⟨timerFd, timerActive, heq⟩ := consume_snd tokens now hactive hb
      rw [heq]
      intro t' b' hb'
      rw [bucket_withTimer] at hb'
      exact h.setBucket (h t b hb).reduce t' b' hb'
  · rw [consume_of_timerActive tokens now hactive]
    exact h

theorem Sound.manualReplenish (h : rl.Sound) : (rl.manualReplenish tokens t).Sound := by
  unfold RateLimiter.manualReplenish
  split
  · rename_i b hb
    exact h.setBucket (h t b hb).forceReplenish
  · exact h

theorem Sound.step {op : LimiterOp} {rl' : RateLimiter} (h : rl.Sound) (hs : step rl op = some rl') :
    rl'.Sound := by
  cases op with
  | consume tokens t now =>
    cases hs
    exact h.consume
  | manualReplenish tokens t =>
    cases hs
    exact h.manualReplenish
  | eventHandler =>
    simp only [RateLimiter.step] at hs
    split at hs
    · rename_i rl₁ hev
      cases hs
      unfold RateLimiter.eventHandler at hev
      split at hev
      split at hev
      · cases hev
      · cases hev
        intro t b hb
        rw [bucket_withTimer] at hb
        exact h t b hb
    · cases hs
      exact h
  | timerFires =>
    cases hs
    intro t b hb
    exact h t b (by cases t <;> exact hb)

theorem sound_of_reachable (h : Run.Reachable step IsNew rl) : rl.Sound :=
  Run.Reachable.inv (I := Sound) (fun _ _ _ hi hs => hi.step hs)
    (fun _ ⟨_, _, _, _, _, _, _, hnew⟩ => hnew ▸ Sound.new) h

/-- **A failed `consume` takes nothing**: on a sound limiter its bucket is as it was, or refilled
by time. -/
theorem Sound.consume_false (h : rl.Sound) (hb : rl.bucket t = some b)
    (hc : (rl.consume tokens t now).1 = false) :
    (rl.consume tokens t now).2.bucket t = some b ∨
      (rl.consume tokens t now).2.bucket t = some (b.autoReplenish now) := by
  cases hactive : rl.timerActive
  · obtain ⟨timerFd, timerActive, heq⟩ := consume_snd tokens now hactive hb
    rw [heq, bucket_withTimer, bucket_setBucket_self]
    have hf : (b.reduce tokens now).1 = .failure := (consume_eq_false_iff hactive hb).1 hc
    exact .inr (congrArg some ((h t b hb).reduce_failure hf).2)
  · rw [consume_of_timerActive tokens now hactive]
    exact .inl hb

/-- What a throttled call leaves: the `Bytes` bucket as it was or refilled by time, and the `Ops`
bucket with its burst and budget as they were, refilled by time, or, when the token taken was the
last of the one-time burst, with the burst over and the budget as it was. -/
def Restored (rl rl' : RateLimiter) (now : Nat) : Prop :=
  (∀ c, rl.bandwidth = some c →
    rl'.bandwidth = some c ∨ rl'.bandwidth = some (c.autoReplenish now)) ∧
  ∀ b, rl.ops = some b → ∃ b', rl'.ops = some b' ∧
    ((b'.oneTimeBurst = b.oneTimeBurst ∧ b'.budget = b.budget) ∨ b' = b.autoReplenish now ∨
      (b.oneTimeBurst = 1 ∧ b'.oneTimeBurst = 0 ∧ b'.budget = b.budget))

theorem Sound.restored_of_ops_false (h : rl.Sound) (hc : (rl.consume 1 .ops now).1 = false) :
    Restored rl (rl.consume 1 .ops now).2 now := by
  refine ⟨fun c hc' => .inl ?_, fun b hb => ?_⟩
  · have hne : (rl.consume 1 .ops now).2.bucket .bytes = rl.bucket .bytes :=
      bucket_consume_of_ne (by decide) 1 now
    exact hne.trans hc'
  · rcases h.consume_false (t := .ops) hb hc with hkeep | hrefill
    · exact ⟨b, hkeep, .inl ⟨rfl, rfl⟩⟩
    · exact ⟨_, hrefill, .inr (.inl rfl)⟩

theorem Sound.restored_of_undo (h : rl.Sound) {n : Nat} (hops : (rl.consume 1 .ops now).1 = true)
    (hbytes : ((rl.consume 1 .ops now).2.consume n .bytes now).1 = false) :
    Restored rl (((rl.consume 1 .ops now).2.consume n .bytes now).2.manualReplenish 1 .ops) now := by
  have hactive : rl.timerActive = false := by
    cases hact : rl.timerActive
    · rfl
    · rw [consume_of_timerActive 1 now hact] at hops
      cases hops
  have h₁ : (rl.consume 1 .ops now).2.Sound := h.consume
  refine ⟨fun c hc => ?_, fun b hb => ?_⟩
  · have hc₁ : (rl.consume 1 .ops now).2.bucket .bytes = some c :=
      (bucket_consume_of_ne (by decide) 1 now).trans hc
    have hkeep : (((rl.consume 1 .ops now).2.consume n .bytes now).2.manualReplenish 1 .ops).bucket .bytes =
        ((rl.consume 1 .ops now).2.consume n .bytes now).2.bucket .bytes :=
      bucket_manualReplenish_of_ne (by decide) 1
    change (((rl.consume 1 .ops now).2.consume n .bytes now).2.manualReplenish 1 .ops).bucket .bytes = _ ∨
      (((rl.consume 1 .ops now).2.consume n .bytes now).2.manualReplenish 1 .ops).bucket .bytes = _
    rw [hkeep]
    exact h₁.consume_false hc₁ hbytes
  · have hb' : rl.bucket .ops = some b := hb
    obtain ⟨timerFd, timerActive, heq⟩ := consume_snd 1 now hactive hb'
    have hok : (b.reduce 1 now).1 ≠ .failure := by
      intro hf
      rw [(consume_eq_false_iff hactive hb').2 hf] at hops
      cases hops
    have hops₂ : ((rl.consume 1 .ops now).2.consume n .bytes now).2.bucket .ops =
        some (b.reduce 1 now).2 := by
      rw [bucket_consume_of_ne (by decide), heq, bucket_withTimer, bucket_setBucket_self]
    refine ⟨((b.reduce 1 now).2.forceReplenish 1), ?_, (h .ops b hb).undoOps hok⟩
    change (((rl.consume 1 .ops now).2.consume n .bytes now).2.manualReplenish 1 .ops).bucket .ops = _
    unfold RateLimiter.manualReplenish
    rw [hops₂, bucket_setBucket_self]

/-- Either way a throttled call can end, the buckets are restored. -/
theorem Sound.restored_of_throttled (h : rl.Sound) {n : Nat} {rl' : RateLimiter}
    (hshape : ((rl.consume 1 .ops now).1 = false ∧ rl' = (rl.consume 1 .ops now).2) ∨
      ((rl.consume 1 .ops now).1 = true ∧ ((rl.consume 1 .ops now).2.consume n .bytes now).1 = false ∧
        rl' = ((rl.consume 1 .ops now).2.consume n .bytes now).2.manualReplenish 1 .ops)) :
    Restored rl rl' now := by
  rcases hshape with ⟨hops, rfl⟩ | ⟨hops, hbytes, rfl⟩
  · exact h.restored_of_ops_false hops
  · exact h.restored_of_undo hops hbytes

theorem rateLimit_of_throttled {r : Block.Request} (h : (r.rateLimit rl now).1 = true) :
    ((rl.consume 1 .ops now).1 = false ∧ (r.rateLimit rl now).2.1 = (rl.consume 1 .ops now).2) ∨
      ((rl.consume 1 .ops now).1 = true ∧
        ((rl.consume 1 .ops now).2.consume r.dataLen.toNat .bytes now).1 = false ∧
        (r.rateLimit rl now).2.1 =
          ((rl.consume 1 .ops now).2.consume r.dataLen.toNat .bytes now).2.manualReplenish 1 .ops) := by
  unfold Block.Request.rateLimit at h ⊢
  rcases hc : rl.consume 1 .ops now with ⟨_ | _, rl₁⟩
  · exact .inl ⟨by simp, by simp⟩
  rw [hc] at h
  simp only [Bool.not_true, Bool.false_eq_true, if_false] at h ⊢
  split at h
  · rename_i hxfer
    rw [if_pos hxfer]
    rcases hb : rl₁.consume r.dataLen.toNat .bytes now with ⟨_ | _, rl₂⟩
    · exact .inr ⟨by simp, by simp, by simp⟩
    · rw [hb] at h
      simp at h
  · simp at h

theorem rateLimiterConsumeOp_of_throttled {size : Nat} (h : (Net.rateLimiterConsumeOp rl size now).1 = false) :
    ((rl.consume 1 .ops now).1 = false ∧
        (Net.rateLimiterConsumeOp rl size now).2 = (rl.consume 1 .ops now).2) ∨
      ((rl.consume 1 .ops now).1 = true ∧ ((rl.consume 1 .ops now).2.consume size .bytes now).1 = false ∧
        (Net.rateLimiterConsumeOp rl size now).2 =
          ((rl.consume 1 .ops now).2.consume size .bytes now).2.manualReplenish 1 .ops) := by
  unfold Net.rateLimiterConsumeOp at h ⊢
  rcases hc : rl.consume 1 .ops now with ⟨_ | _, rl₁⟩
  · exact .inl ⟨by simp, by simp⟩
  rw [hc] at h
  dsimp only at h ⊢
  rcases hb : rl₁.consume size .bytes now with ⟨_ | _, rl₂⟩
  · exact .inr ⟨rfl, rfl, rfl⟩
  · rw [hb] at h
    simp at h

end RateLimiter

open RateLimiter

/-- **What a throttled limiter keeps.** On every limiter that `RateLimiter::new` made and that any
sequence of `consume`, `manual_replenish`, `event_handler` and timer expiries has used since: a
`consume` that fails leaves its bucket as it was or refilled by time, a partly covering one-time
burst included; and when `Request::rate_limit` or `Net::rate_limiter_consume_op` reports
throttling, the `Bytes` bucket is as it was or refilled by time, and so is the `Ops` bucket, but
for one case: an `Ops` token that was the last unit of the one-time burst comes back to the full
budget, so the burst is over and the token lost. -/
theorem throttle_restores_buckets {rl : RateLimiter} (hreach : Run.Reachable step IsNew rl)
    (r : Block.Request) (size now : Nat) :
    (∀ t b tokens, rl.bucket t = some b → (rl.consume tokens t now).1 = false →
      (rl.consume tokens t now).2.bucket t = some b ∨
        (rl.consume tokens t now).2.bucket t = some (b.autoReplenish now)) ∧
    ((r.rateLimit rl now).1 = true → Restored rl (r.rateLimit rl now).2.1 now) ∧
    ((Net.rateLimiterConsumeOp rl size now).1 = false →
      Restored rl (Net.rateLimiterConsumeOp rl size now).2 now) := by
  have h := sound_of_reachable hreach
  exact ⟨fun t b tokens hb hc => h.consume_false hb hc,
    fun hthrottled => h.restored_of_throttled (rateLimit_of_throttled hthrottled),
    fun hthrottled => h.restored_of_throttled (rateLimiterConsumeOp_of_throttled hthrottled)⟩

/-- A limiter of ten bytes and ten operations a second with a one-time burst of two operations,
after a read of eight bytes: a read of five bytes is throttled, and its `Ops` token was the last
of the burst. -/
theorem throttle_restores_buckets_secondRead :
    Run.Reachable step IsNew
        (((RateLimiter.new 10 0 1000 10 2 1000 0).consume 1 .ops 0).2.consume 8 .bytes 0).2 ∧
      ((⟨.in, 5, 0, 0, 0⟩ : Block.Request).rateLimit
          (((RateLimiter.new 10 0 1000 10 2 1000 0).consume 1 .ops 0).2.consume 8 .bytes 0).2 0).1 =
        true ∧
      Restored (((RateLimiter.new 10 0 1000 10 2 1000 0).consume 1 .ops 0).2.consume 8 .bytes 0).2
        ((⟨.in, 5, 0, 0, 0⟩ : Block.Request).rateLimit
          (((RateLimiter.new 10 0 1000 10 2 1000 0).consume 1 .ops 0).2.consume 8 .bytes 0).2 0).2.1 0 := by
  have hreach : Run.Reachable step IsNew
      (((RateLimiter.new 10 0 1000 10 2 1000 0).consume 1 .ops 0).2.consume 8 .bytes 0).2 :=
    .step (.step (.init ⟨10, 0, 1000, 10, 2, 1000, 0, rfl⟩) (a := .consume 1 .ops 0) rfl)
      (a := .consume 8 .bytes 0) rfl
  have hthrottled : ((⟨.in, 5, 0, 0, 0⟩ : Block.Request).rateLimit
      (((RateLimiter.new 10 0 1000 10 2 1000 0).consume 1 .ops 0).2.consume 8 .bytes 0).2 0).1 = true := by
    decide
  exact ⟨hreach, hthrottled, (throttle_restores_buckets hreach ⟨.in, 5, 0, 0, 0⟩ 5 0).2.1 hthrottled⟩

end Firecracker
