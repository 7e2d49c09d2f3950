import Firecracker.Vsock.Csm

/-!
# Firecracker.Vsock.TxBufFifo

`TxBuf` as a FIFO of bytes. A sink's `write` that returns `n` took the first `n` bytes it was
offered; `Recording` keeps those bytes beside any sink. `flushTo_recording`: a flush moves bytes
from the front of the buffer to the end of what the sink accepted, whether it succeeds or fails,
however the ring wraps. Over any run of pushes and flushes (`TxTrace.run`), what the buffer held
and every slice pushed since, in order, is what the sinks accepted followed by what the buffer
holds (`txBuf_lossless`).
-/

namespace Firecracker
namespace Vsock
namespace Csm

structure Recording (W : Type) where
  sink : W
  accepted : List (BitVec 8)

instance {W : Type} [ByteSink W] : ByteSink (Recording W) where
  write r buf :=
    match ByteSink.write r.sink buf with
    | (sink, .ok n) => (⟨sink, r.accepted ++ buf.take n⟩, .ok n)
    | (sink, .error e) => (⟨sink, r.accepted⟩, .error e)
  write_le := by
    intro r r' buf n h
    split at h
    · rename_i hw
      cases h
      exact ByteSink.write_le hw
    · cases h

namespace Recording

variable {W : Type} [ByteSink W]

theorem write_accepted {r r' : Recording W} {buf : List (BitVec 8)} {res : Except IoError Nat}
    (h : ByteSink.write r buf = (r', res)) :
    r'.accepted = r.accepted ++ buf.take (res.toOption.getD 0) := by
  change (match ByteSink.write r.sink buf with
    | (sink, .ok n) => ((⟨sink, r.accepted ++ buf.take n⟩ : Recording W), (.ok n : Except IoError Nat))
    | (sink, .error e) => (⟨sink, r.accepted⟩, .error e)) = (r', res) at h
  split at h
  · cases h
    rfl
  · cases h
    simp [Except.toOption]

end Recording

namespace TxBuf

variable {W : Type} [ByteSink W]

theorem slice_eq_take_contents (b : TxBuf) :
    Ring.slice b.data (b.tail.toNat % size) (min (size - b.tail.toNat % size) b.len) =
      b.contents.take (min (size - b.tail.toNat % size) b.len) := by
  have htail : b.tail.toNat % size < size := Nat.mod_lt _ (by decide)
  exact Ring.slice_eq_take_window _ (by omega) (min_le_right _ _)

/-- **A flush moves bytes from the buffer to the sink.** Whatever a flush returns, what the sink had
accepted and what the buffer held is what the sink has accepted and what the buffer holds. -/
theorem flushTo_recording {fuel : Nat} {b b' : TxBuf} {r r' : Recording W} {res : Except Error Nat}
    (h : b.flushTo fuel r = (b', r', res)) : r.accepted ++ b.contents = r'.accepted ++ b'.contents := by
  induction fuel generalizing b b' r r' res with
  | zero =>
    cases h
    rfl
  | succ fuel ih =>
    unfold flushTo at h
    split at h
    · cases h
      rfl
    dsimp only at h
    split at h
    · rename_i r₁ e hw
      cases h
      rw [Recording.write_accepted hw]
      simp [Except.toOption]
    rename_i r₁ written hw
    have hle : written ≤ min (size - b.tail.toNat % size) b.len :=
      le_trans (ByteSink.write_le hw) (by simp)
    have hacc : r₁.accepted ++ (b.consume written (le_trans hle (min_le_right _ _))).contents =
        r.accepted ++ b.contents := by
      rw [Recording.write_accepted hw]
      simp only [Except.toOption, Option.getD_some]
      rw [consume_contents, slice_eq_take_contents, List.take_take, min_eq_left hle,
        List.append_assoc, List.take_append_drop]
    split at h
    · cases h
      exact hacc.symm
    · rcases hrest : flushTo fuel (b.consume written (le_trans hle (min_le_right _ _))) r₁ with
        ⟨b₂, r₂, res₂⟩
      rw [hrest] at h
      cases h
      rw [← hacc]
      exact ih hrest

end TxBuf

/-! ## Runs of pushes and flushes -/

/-- A call on the buffer: `push` of a slice, or `flush_to` a sink. -/
inductive TxCall (W : Type) where
  | push (src : List (BitVec 8))
  | flushTo (sink : W)

/-- The buffer, with the slices pushed successfully and the bytes the sinks accepted. -/
structure TxTrace where
  buf : TxBuf
  pushed : List (BitVec 8)
  accepted : List (BitVec 8)

namespace TxTrace

variable {W : Type} [ByteSink W]

/-- One call; a push that fails returns an error and changes nothing, and `flush_to` recurses at
most `fuel` times. -/
def step (fuel : Nat) (t : TxTrace) : TxCall W → TxTrace
  | .push src =>
    match t.buf.push src with
    | .ok buf => { t with buf, pushed := t.pushed ++ src }
    | .error _ => t
  | .flushTo sink =>
    match t.buf.flushTo fuel (⟨sink, []⟩ : Recording W) with
    | (buf, r, _) => { t with buf, accepted := t.accepted ++ r.accepted }

def run (fuel : Nat) (t : TxTrace) (calls : List (TxCall W)) : TxTrace := calls.foldl (step fuel) t

/-- The bytes `start`, and every slice pushed after them, are the bytes accepted followed by the
bytes held. -/
def Fifo (start : List (BitVec 8)) (t : TxTrace) : Prop :=
  start ++ t.pushed = t.accepted ++ t.buf.contents

theorem step_fifo {start : List (BitVec 8)} {t : TxTrace} (ht : Fifo start t) (fuel : Nat)
    (c : TxCall W) : Fifo start (t.step fuel c) := by
  unfold Fifo at ht ⊢
  cases c with
  | push src =>
    rcases hpush : t.buf.push src with e | buf
    · simp only [step, hpush]
      exact ht
    · obtain ⟨-, -, hcontents⟩ := TxBuf.push_ok hpush
      simp only [step, hpush]
      rw [hcontents, ← List.append_assoc, ht, List.append_assoc]
  | flushTo sink =>
    rcases hflush : t.buf.flushTo fuel (⟨sink, []⟩ : Recording W) with ⟨buf, r, res⟩
    simp only [step, hflush]
    have hmove := TxBuf.flushTo_recording hflush
    rw [List.nil_append] at hmove
    rw [ht, hmove, List.append_assoc]

theorem run_fifo {start : List (BitVec 8)} {t : TxTrace} (ht : Fifo start t) (fuel : Nat)
    (calls : List (TxCall W)) : Fifo start (t.run fuel calls) := by
  induction calls generalizing t with
  | nil => exact ht
  | cons c calls ih => exact ih (step_fifo ht fuel c)

end TxTrace

/-- **`TxBuf` is a lossless FIFO.** For every buffer (its `head` and `tail` anywhere in their
wrapping range) and every sequence of pushes and flushes to sinks that accept a prefix of what they
are offered or fail: what the buffer held followed by the slices pushed successfully is what the
sinks accepted followed by what the buffer holds. So what the sinks accepted is a prefix of it,
the length counts the bytes pushed less those flushed, and it never passes the buffer's size. -/
theorem txBuf_lossless {W : Type} [ByteSink W] (fuel : Nat) (b : TxBuf) (calls : List (TxCall W)) :
    let t := TxTrace.run fuel ⟨b, [], []⟩ calls
    b.contents ++ t.pushed = t.accepted ++ t.buf.contents ∧ t.accepted <+: b.contents ++ t.pushed ∧
      t.buf.len + t.accepted.length = b.len + t.pushed.length ∧ t.buf.len ≤ TxBuf.size := by
  intro t
  have hfifo : TxTrace.Fifo b.contents t := TxTrace.run_fifo (by simp [TxTrace.Fifo]) fuel calls
  unfold TxTrace.Fifo at hfifo
  refine ⟨hfifo, hfifo ▸ List.prefix_append _ _, ?_, TxBuf.len_le_size _⟩
  have hlen := congrArg List.length hfifo
  simp only [List.length_append, TxBuf.length_contents] at hlen
  omega

end Csm
end Vsock
end Firecracker
