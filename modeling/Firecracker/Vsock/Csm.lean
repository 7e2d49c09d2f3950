import Firecracker.Vsock.Packet
import Firecracker.Lib.Ring
import Firecracker.Lib.Wrapping

/-!
# Firecracker.Vsock.Csm

`devices/src/virtio/vsock/csm/mod.rs` and `txbuf.rs`: what a connection's state machine is built
from. The states of a connection (`ConnState`), the set of packets it owes the guest
(`PendingRxSet`, a bitmask of `PendingRx`), and the TX buffer (`TxBuf`), where the bytes of the
guest wait that the host stream could not take yet.

`TxBuf` is a ring of `CONN_TX_BUF_SIZE` bytes with wrapping `head` and `tail` counters. Its
length never passes the size, which the structure carries. What it holds is the window of the ring
from `tail` (`contents`): a push appends the slice to it (`push_contents`), and a flush drops the
bytes the sink took from its front (`flushTo_ok`). The array is allocated at the first push in the
source; here it is there from the start, with every cell zero.
-/

namespace Firecracker
namespace Vsock
namespace Csm

/-! ## `defs` -/

def connTxBufSize : BitVec 32 := 64 * 1024

/-- When the guest thinks we have less than this amount of free buffer space, we will send them a
credit update packet. -/
def connCreditUpdateThreshold : BitVec 32 := 4 * 1024

def connRequestTimeoutMs : Nat := 2000
def connShutdownTimeoutMs : Nat := 2000

inductive Error
  | txBufFull
  | txBufFlush (e : IoError)
  | streamWrite (e : IoError)
  deriving DecidableEq, Repr

/-- `ConnState`; `peerClosed recvOff sendOff` is the guest's (will not receive, will not send). -/
inductive ConnState
  | localInit
  | peerInit
  | established
  | localClosed
  | peerClosed (recvOff sendOff : Bool)
  | killed
  deriving DecidableEq, Repr

/-! ## Pending RX indications -/

inductive PendingRx
  | request
  | response
  | rst
  | rw
  | creditUpdate
  deriving DecidableEq, Repr

def PendingRx.toNat : PendingRx → Nat
  | .request => 0
  | .response => 1
  | .rst => 2
  | .rw => 3
  | .creditUpdate => 4

def PendingRx.intoMask (it : PendingRx) : BitVec 16 := (1 : BitVec 16) <<< it.toNat

theorem PendingRx.toNat_lt (a : PendingRx) : a.toNat < 16 := by
  cases a <;> decide

theorem PendingRx.toNat_inj {a b : PendingRx} : a.toNat = b.toNat ↔ a = b := by
  cases a <;> cases b <;> decide

theorem PendingRx.intoMask_eq (a : PendingRx) : a.intoMask = BitVec.twoPow 16 a.toNat := by
  rw [BitVec.twoPow_eq]
  rfl

theorem PendingRx.intoMask_lt (a : PendingRx) : a.intoMask.toNat < 2 ^ 5 := by
  cases a <;> decide

/-- `PendingRxSet`: its `data` is private, and set only through the masks of `PendingRx`, so no
bit past the fifth is ever set. -/
structure PendingRxSet where
  data : BitVec 16
  data_lt : data.toNat < 2 ^ 5
  deriving DecidableEq

namespace PendingRxSet

def insert (s : PendingRxSet) (it : PendingRx) : PendingRxSet :=
  ⟨s.data ||| it.intoMask, by
    rw [BitVec.toNat_or]
    exact Nat.or_lt_two_pow s.data_lt it.intoMask_lt⟩

def contains (s : PendingRxSet) (it : PendingRx) : Bool := s.data &&& it.intoMask != 0

/-- `remove`: whether the item was in the set, and the set without it. -/
def remove (s : PendingRxSet) (it : PendingRx) : Bool × PendingRxSet :=
  (s.contains it, ⟨s.data &&& ~~~it.intoMask, by
    rw [BitVec.toNat_and]
    exact lt_of_le_of_lt Nat.and_le_left s.data_lt⟩)

def isEmpty (s : PendingRxSet) : Bool := s.data == 0

def ofPendingRx (it : PendingRx) : PendingRxSet := ⟨it.intoMask, it.intoMask_lt⟩

/-! The set as its bits: `contains` reads the item's bit, `insert` sets it, `remove` clears it. -/

theorem contains_eq (s : PendingRxSet) (a : PendingRx) : s.contains a = s.data.getLsbD a.toNat := by
  rw [contains, PendingRx.intoMask_eq, BitVec.and_twoPow]
  split
  · rename_i h
    simp only [h, bne_iff_ne, ne_eq]
    cases a <;> decide
  · simp_all

@[simp] theorem contains_insert (s : PendingRxSet) (a b : PendingRx) :
    (s.insert a).contains b = (decide (a = b) || s.contains b) := by
  simp only [contains_eq, insert, BitVec.getLsbD_or, PendingRx.intoMask_eq, BitVec.getLsbD_twoPow,
    PendingRx.toNat_lt, PendingRx.toNat_inj]
  simp [Bool.or_comm]

@[simp] theorem remove_fst (s : PendingRxSet) (a : PendingRx) : (s.remove a).1 = s.contains a :=
  rfl

@[simp] theorem contains_remove (s : PendingRxSet) (a b : PendingRx) :
    (s.remove a).2.contains b = (!decide (a = b) && s.contains b) := by
  simp only [contains_eq, remove, BitVec.getLsbD_and, BitVec.getLsbD_not, PendingRx.intoMask_eq,
    BitVec.getLsbD_twoPow, PendingRx.toNat_lt, PendingRx.toNat_inj]
  simp [Bool.and_comm]

@[simp] theorem contains_ofPendingRx (a b : PendingRx) :
    (ofPendingRx a).contains b = decide (a = b) := by
  simp [contains_eq, ofPendingRx, PendingRx.intoMask_eq, PendingRx.toNat_lt, PendingRx.toNat_inj,
    eq_comm]

theorem contains_of_isEmpty {s : PendingRxSet} (h : s.isEmpty = true) (a : PendingRx) :
    s.contains a = false := by
  rw [isEmpty, beq_iff_eq] at h
  simp [contains_eq, h]

theorem fst_of_remove_eq {s s' : PendingRxSet} {a : PendingRx} {x : Bool} (h : s.remove a = (x, s')) :
    x = s.contains a := by
  rw [← remove_fst, h]

theorem contains_of_remove_eq {s s' : PendingRxSet} {a : PendingRx} {x : Bool}
    (h : s.remove a = (x, s')) (b : PendingRx) :
    s'.contains b = (!decide (a = b) && s.contains b) := by
  rw [← contains_remove s a b, h]

theorem isEmpty_of_contains {s : PendingRxSet} (h : ∀ a, s.contains a = false) :
    s.isEmpty = true := by
  rw [isEmpty, beq_iff_eq]
  apply BitVec.eq_of_getLsbD_eq
  intro i hi
  rw [show (0 : BitVec 16).getLsbD i = false by simp]
  have hbit : ∀ a : PendingRx, i = a.toNat → s.data.getLsbD i = false := by
    rintro a rfl
    rw [← contains_eq]
    exact h a
  rcases (show i < 5 ∨ 5 ≤ i by omega) with hlt | hge
  · interval_cases i
    · exact hbit .request rfl
    · exact hbit .response rfl
    · exact hbit .rst rfl
    · exact hbit .rw rfl
    · exact hbit .creditUpdate rfl
  · exact Nat.testBit_lt_two_pow (lt_of_lt_of_le s.data_lt (Nat.pow_le_pow_right (by decide) hge))

end PendingRxSet

/-! ## The TX buffer -/

def TxBuf.size : Nat := connTxBufSize.toNat

/-- `TxBuf`: the ring's array, and its `head` (where new data is pushed to) and `tail` (where data
is flushed from) offsets, which wrap at `2 ^ 32`. -/
structure TxBuf where
  data : Nat → BitVec 8
  head : BitVec 32
  tail : BitVec 32
  len_le : (head - tail).toNat ≤ TxBuf.size

namespace TxBuf

theorem size_eq : size = 65536 := rfl

theorem size_dvd : size ∣ 2 ^ 32 := ⟨65536, rfl⟩

def new : TxBuf := ⟨fun _ => 0, 0, 0, by decide⟩

def len (b : TxBuf) : Nat := (b.head - b.tail).toNat

def isEmpty (b : TxBuf) : Bool := b.len == 0

def contents (b : TxBuf) : List (BitVec 8) := Ring.window b.data size b.tail.toNat b.len

theorem len_eq_dist (b : TxBuf) : b.len = Wrapping.dist b.tail b.head := rfl

theorem len_le_size (b : TxBuf) : b.len ≤ size := b.len_le

@[simp] theorem len_new : new.len = 0 := rfl

@[simp] theorem length_contents (b : TxBuf) : b.contents.length = b.len := by
  simp [contents]

@[simp] theorem isEmpty_iff (b : TxBuf) : b.isEmpty = true ↔ b.len = 0 := by
  simp [isEmpty]

/-- `push`: the whole slice, or none of it when there is no room. Pushing takes one copy up to
the end of the array, and a second from its start when the head wraps around. -/
def push (b : TxBuf) (src : List (BitVec 8)) : Except Error TxBuf :=
  if h : b.len + src.length > size then .error .txBufFull
  else
    .ok { data := Ring.copyWrapping b.data size (b.head.toNat % size) src
          head := b.head + BitVec.ofNat 32 src.length
          tail := b.tail
          len_le := by
            have hsum : Wrapping.dist b.tail (b.head + BitVec.ofNat 32 src.length) =
                b.len + src.length :=
              Wrapping.dist_add_right (lt_of_le_of_lt (not_lt.1 h) (by decide))
            show Wrapping.dist _ _ ≤ size
            omega }

/-- The buffer with its first `n` bytes flushed out: the tail moved on by `n`. -/
def consume (b : TxBuf) (n : Nat) (h : n ≤ b.len) : TxBuf :=
  { b with
    tail := b.tail + BitVec.ofNat 32 n
    len_le := by
      have hd : Wrapping.dist (b.tail + BitVec.ofNat 32 n) b.head = b.len - n :=
        Wrapping.dist_add_left h
      show Wrapping.dist _ _ ≤ size
      have := b.len_le_size
      omega }

/-- `flush_to`: one write from the tail up to the end of the array or the head, and, when the
sink took all of it, the same again for what is left. A second write that fails does not fail
the flush. The source recurses at most three times; `fuel` bounds the recursion. -/
def flushTo {W : Type} [ByteSink W] : Nat → TxBuf → W → TxBuf × W × Except Error Nat
  | 0, b, sink => (b, sink, .ok 0)
  | fuel + 1, b, sink =>
    if b.isEmpty then (b, sink, .ok 0)
    else
      let tailOfs := b.tail.toNat % size
      let lenToWrite := min (size - tailOfs) b.len
      match hw : ByteSink.write sink (Ring.slice b.data tailOfs lenToWrite) with
      | (sink, .error e) => (b, sink, .error (.txBufFlush e))
      | (sink, .ok written) =>
        let b := b.consume written
          (le_trans (ByteSink.write_le hw) (by simp [lenToWrite]))
        if written < lenToWrite then (b, sink, .ok written)
        else
          match flushTo fuel b sink with
          | (b, sink, r) => (b, sink, .ok (written + (r.toOption.getD 0)))

/-! ### What a push and a flush do -/

variable {b b' : TxBuf} {src : List (BitVec 8)}

theorem head_mod_size (b : TxBuf) : b.head.toNat % size = (b.tail.toNat + b.len) % size := by
  have hhead : b.head.toNat = (b.tail.toNat + b.len) % 2 ^ 32 := by
    rw [len, ← BitVec.toNat_add, add_sub_cancel]
  rw [hhead, Nat.mod_mod_of_dvd _ size_dvd]

theorem push_full (h : size < b.len + src.length) : b.push src = .error .txBufFull := by
  simp [push, h]

/-- **A push appends.** A push that succeeds had room for the slice, and the buffer then holds
the slice after what it held. -/
theorem push_ok (h : b.push src = .ok b') :
    b.len + src.length ≤ size ∧ b'.len = b.len + src.length ∧ b'.contents = b.contents ++ src := by
  unfold push at h
  split at h
  · cases h
  rename_i hroom
  cases h
  have hfit : b.len + src.length ≤ size := not_lt.1 hroom
  have hlen : Wrapping.dist b.tail (b.head + BitVec.ofNat 32 src.length) = b.len + src.length :=
    Wrapping.dist_add_right (lt_of_le_of_lt hfit (by decide))
  refine ⟨hfit, hlen, ?_⟩
  show Ring.window _ size b.tail.toNat (Wrapping.dist _ _) = _
  rw [hlen, head_mod_size]
  exact Ring.window_copyWrapping b.data (by decide) hfit

theorem push_of_le (h : b.len + src.length ≤ size) : ∃ b', b.push src = .ok b' := by
  simp [push, not_lt.2 h]

theorem consume_len {n : Nat} (h : n ≤ b.len) : (b.consume n h).len = b.len - n :=
  Wrapping.dist_add_left h

theorem consume_contents {n : Nat} (h : n ≤ b.len) :
    (b.consume n h).contents = b.contents.drop n := by
  have htail : (b.tail + BitVec.ofNat 32 n).toNat = (b.tail.toNat + n) % 2 ^ 32 := by
    have hn : n < 2 ^ 32 := lt_of_le_of_lt (le_trans h b.len_le_size) (by decide)
    rw [BitVec.toNat_add, BitVec.toNat_ofNat, Nat.mod_eq_of_lt hn]
  show Ring.window b.data size (b.tail + BitVec.ofNat 32 n).toNat (consume b n h).len = _
  rw [consume_len, htail, Ring.window_mod_start _ size_dvd]
  exact Ring.window_add_start _ h _

section flush

variable {W : Type} [ByteSink W] {sink sink' : W}

theorem flushTo_error {fuel : Nat} {e : Error} (h : b.flushTo fuel sink = (b', sink', .error e)) :
    b' = b := by
  cases fuel with
  | zero => cases h
  | succ fuel =>
    unfold flushTo at h
    split at h
    · cases h
    dsimp only at h
    split at h
    · cases h
      rfl
    · split at h
      · cases h
      · simp at h

/-- **A flush drops what the sink took.** A flush that succeeds took `n` bytes out of the buffer,
from its front. -/
theorem flushTo_ok {fuel n : Nat} (h : b.flushTo fuel sink = (b', sink', .ok n)) :
    n ≤ b.len ∧ b'.len = b.len - n ∧ b'.contents = b.contents.drop n := by
  induction fuel generalizing b b' sink sink' n with
  | zero =>
    cases h
    simp
  | succ fuel ih =>
    unfold flushTo at h
    split at h
    · cases h
      simp
    dsimp only at h
    split at h
    · cases h
    rename_i sink₁ written hw
    have hle : written ≤ b.len := le_trans (ByteSink.write_le hw) (by simp)
    split at h
    · cases h
      exact ⟨hle, consume_len hle, consume_contents hle⟩
    · simp only [Prod.mk.injEq] at h
      obtain ⟨rfl, -, hn⟩ := h
      cases hn
      rcases hrest : flushTo fuel (b.consume written hle) sink₁ with ⟨b₂, sink₂, r⟩
      cases r with
      | ok m =>
        obtain ⟨hm, hlen, hcontents⟩ := ih hrest
        rw [consume_len] at hm hlen
        rw [consume_contents, List.drop_drop] at hcontents
        simp only [Except.toOption, Option.getD_some]
        exact ⟨by omega, by omega, hcontents⟩
      | error e =>
        rw [flushTo_error hrest]
        simpa [Except.toOption] using ⟨hle, consume_len hle, consume_contents hle⟩

end flush

/-- `Write for TxBuf`: a push, whose error is an `io::Error` of kind `Other`. -/
instance : ByteSink TxBuf where
  write b buf :=
    match b.push buf with
    | .ok b => (b, .ok buf.length)
    | .error _ => (b, .error .txBufFull)
  write_le := by
    intro b b' buf n h
    split at h <;> simp_all

theorem write_eq (src : List (BitVec 8)) :
    ByteSink.write b src =
      match b.push src with
      | .ok b => (b, .ok src.length)
      | .error _ => (b, .error .txBufFull) := rfl

theorem write_of_le (h : b.len + src.length ≤ size) :
    ∃ b', ByteSink.write b src = (b', .ok src.length) ∧ b'.len = b.len + src.length ∧
      b'.contents = b.contents ++ src := by
  obtain ⟨b', hpush⟩ := push_of_le h
  obtain ⟨-, hlen, hcontents⟩ := push_ok hpush
  exact ⟨b', by rw [write_eq, hpush], hlen, hcontents⟩

theorem writeFromOffsetTo_txBuf {pkt : VsockPacket} {offset count : Nat} {r : Except VsockError Nat}
    (h : pkt.writeFromOffsetTo offset b count = (b', r)) :
    (r = .ok count ∧ b'.len = b.len + count) ∨
      (b' = b ∧ r = .error (.guestMemoryMmap .txBufFull) ∧ size < b.len + count) ∨
      (b' = b ∧ ∃ e, pkt.bufRegionAddr offset count = .error e ∧ r = .error e) := by
  unfold VsockPacket.writeFromOffsetTo at h
  split at h
  · rename_i e he
    cases h
    exact .inr (.inr ⟨rfl, e, he, rfl⟩)
  rename_i buf hbuf
  obtain ⟨-, hfit, -⟩ := VsockPacket.bufRegionAddr_ok hbuf
  have hlen : ((buf.drop offset).take count).length = count := by simp; omega
  rw [write_eq] at h
  rcases hpush : b.push ((buf.drop offset).take count) with e | b₁
  · simp only [hpush, Prod.mk.injEq] at h
    obtain ⟨rfl, rfl⟩ := h
    refine .inr (.inl ⟨rfl, rfl, ?_⟩)
    by_contra hroom
    obtain ⟨b₂, hb₂⟩ := push_of_le (b := b)
      (show b.len + ((buf.drop offset).take count).length ≤ size by omega)
    rw [hb₂] at hpush
    cases hpush
  · simp only [hpush, Prod.mk.injEq] at h
    obtain ⟨rfl, rfl⟩ := h
    obtain ⟨-, hlen₁, -⟩ := push_ok hpush
    exact .inl ⟨by rw [hlen], by rw [hlen₁, hlen]⟩

end TxBuf

end Csm
end Vsock
end Firecracker
