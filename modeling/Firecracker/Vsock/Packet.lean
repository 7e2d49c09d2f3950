import Mathlib.Data.List.Basic

/-!
# Firecracker.Vsock.Packet

Vsock packets and the host streams they are copied to and from. A `VsockPacket` is its header
and its data buffer in guest memory; `read_at_offset_from` and `write_from_offset_to` copy between
the buffer and a stream with one `read` or one `write` of the stream, after the bounds checks of
`buf_region_addr`.

A stream is anything with the `Read` and `Write` of `std::io`: `StreamIo` gives its `read`, its
`write` and its file descriptor, together with the contract of the two calls (a `read` of `count`
bytes returns at most `count` bytes, a `write` accepts at most what it is given). Every theorem
about a connection holds for every such stream.
-/

namespace Firecracker
namespace Vsock

/-! ### Constants of `uapi` -/

def vsockOpRequest : BitVec 16 := 1
def vsockOpResponse : BitVec 16 := 2
def vsockOpRst : BitVec 16 := 3
def vsockOpShutdown : BitVec 16 := 4
def vsockOpRw : BitVec 16 := 5
def vsockOpCreditUpdate : BitVec 16 := 6
def vsockOpCreditRequest : BitVec 16 := 7

def vsockFlagsShutdownRcv : BitVec 32 := 1
def vsockFlagsShutdownSend : BitVec 32 := 2

def vsockTypeStream : BitVec 16 := 1

def vsockHostCid : BitVec 64 := 2

/-! ### Errors -/

/-- The `ErrorKind`s of `std::io::Error` the vsock code tells apart. -/
inductive ErrorKind
  | wouldBlock
  | other
  deriving DecidableEq, Repr

/-- A `std::io::Error`: an error of the host stream, or the `TxBufFull` that `TxBuf`'s `Write`
wraps as an error of kind `Other`. -/
inductive IoError
  | os (kind : ErrorKind)
  | txBufFull
  deriving DecidableEq, Repr

def IoError.kind : IoError → ErrorKind
  | .os kind => kind
  | .txBufFull => .other

/-- The `VsockError`s of the data path; a failed `read_from` or `write_to` of guest memory is
`GuestMemoryMmap(IOError(e))`. -/
inductive VsockError
  | guestMemoryMmap (e : IoError)
  | guestMemoryBounds
  | noData
  | pktBufMissing
  deriving DecidableEq, Repr

/-! ### Streams -/

/-- Something bytes can be written to, with the contract of `Write::write`. -/
class ByteSink (W : Type) where
  write : W → List (BitVec 8) → W × Except IoError Nat
  write_le : ∀ {w w' : W} {buf : List (BitVec 8)} {n : Nat},
    write w buf = (w', .ok n) → n ≤ buf.length

/-- A host stream: `Read + Write + AsRawFd`, with the contract of `Read::read`. Its errors are
the operating system's: only `TxBuf` makes a `TxBufFull`. -/
class StreamIo (S : Type) extends ByteSink S where
  read : S → Nat → S × Except IoError (List (BitVec 8))
  asRawFd : S → Int
  read_length_le : ∀ {s s' : S} {count : Nat} {bytes : List (BitVec 8)},
    read s count = (s', .ok bytes) → bytes.length ≤ count
  write_ne_txBufFull : ∀ {s s' : S} {buf : List (BitVec 8)},
    write s buf ≠ (s', .error .txBufFull)

/-! ### Packets -/

structure VsockPacketHeader where
  srcCid : BitVec 64
  dstCid : BitVec 64
  srcPort : BitVec 32
  dstPort : BitVec 32
  len : BitVec 32
  type_ : BitVec 16
  op : BitVec 16
  flags : BitVec 32
  bufAlloc : BitVec 32
  fwdCnt : BitVec 32
  deriving DecidableEq, Repr

/-- `VsockPacketHeader::default()`, the header an RX packet starts with. -/
def VsockPacketHeader.default : VsockPacketHeader := ⟨0, 0, 0, 0, 0, 0, 0, 0, 0, 0⟩

/-- `VsockPacket`: the header and the data buffer, the bytes of guest memory at `buf_addr`
(`none` when the packet has no buffer). -/
structure VsockPacket where
  hdr : VsockPacketHeader
  buf : Option (List (BitVec 8))
  deriving DecidableEq, Repr

namespace VsockPacket

variable (pkt : VsockPacket)

def bufSize : Nat := (pkt.buf.map List.length).getD 0

def setOp (op : BitVec 16) : VsockPacket := { pkt with hdr.op := op }

def setLen (len : BitVec 32) : VsockPacket := { pkt with hdr.len := len }

def setFlag (flag : BitVec 32) : VsockPacket := { pkt with hdr.flags := pkt.hdr.flags ||| flag }

/-- The bounds checks of `buf_region_addr` for `count` bytes at `offset`; the buffer lies in one
region of guest memory, whose `checked_offset` fails only for `count = 0`. -/
def bufRegionAddr (offset count : Nat) : Except VsockError (List (BitVec 8)) :=
  if pkt.bufSize < offset + count then .error .guestMemoryBounds
  else
    match pkt.buf with
    | none => .error .pktBufMissing
    | some buf => if count = 0 then .error .guestMemoryBounds else .ok buf

/-- `read_at_offset_from`: one `read` of the stream into the buffer at `offset`. -/
def readAtOffsetFrom {S : Type} [StreamIo S] (offset : Nat) (src : S) (count : Nat) :
    VsockPacket × S × Except VsockError Nat :=
  match pkt.bufRegionAddr offset count with
  | .error e => (pkt, src, .error e)
  | .ok buf =>
    match StreamIo.read src count with
    | (src, .error e) => (pkt, src, .error (.guestMemoryMmap e))
    | (src, .ok bytes) =>
      ({ pkt with buf := some (buf.take offset ++ bytes ++ buf.drop (offset + bytes.length)) },
        src, .ok bytes.length)

/-- `write_from_offset_to`: one `write` of `count` bytes of the buffer from `offset`. -/
def writeFromOffsetTo {W : Type} [ByteSink W] (offset : Nat) (dst : W) (count : Nat) :
    W × Except VsockError Nat :=
  match pkt.bufRegionAddr offset count with
  | .error e => (dst, .error e)
  | .ok buf =>
    match ByteSink.write dst ((buf.drop offset).take count) with
    | (dst, .error e) => (dst, .error (.guestMemoryMmap e))
    | (dst, .ok n) => (dst, .ok n)

/-! ### The bounds checks -/

variable {pkt} {offset count : Nat} {buf : List (BitVec 8)}

theorem bufRegionAddr_ok (h : pkt.bufRegionAddr offset count = .ok buf) :
    pkt.buf = some buf ∧ offset + count ≤ buf.length ∧ count ≠ 0 := by
  unfold bufRegionAddr at h
  split at h
  · cases h
  rename_i hbounds
  split at h
  · cases h
  rename_i b hb
  split at h
  · cases h
  rename_i hcount
  cases h
  simp only [bufSize, hb, Option.map_some, Option.getD_some] at hbounds
  exact ⟨hb, by omega, hcount⟩

theorem bufRegionAddr_of_le (hb : pkt.buf = some buf) (hle : offset + count ≤ buf.length)
    (hcount : count ≠ 0) : pkt.bufRegionAddr offset count = .ok buf := by
  have hsize : ¬pkt.bufSize < offset + count := by simp [bufSize, hb]; omega
  simp [bufRegionAddr, hsize, hb, hcount]

theorem writeFromOffsetTo_eq {W : Type} [ByteSink W] (dst : W) (hb : pkt.buf = some buf)
    (hle : offset + count ≤ buf.length) (hcount : count ≠ 0) :
    pkt.writeFromOffsetTo offset dst count =
      match ByteSink.write dst ((buf.drop offset).take count) with
      | (dst, .error e) => (dst, .error (.guestMemoryMmap e))
      | (dst, .ok n) => (dst, .ok n) := by
  simp only [writeFromOffsetTo, bufRegionAddr_of_le hb hle hcount]

theorem bufRegionAddr_error {e : VsockError} (h : pkt.bufRegionAddr offset count = .error e) :
    e = .guestMemoryBounds ∨ e = .pktBufMissing := by
  unfold bufRegionAddr at h
  split at h
  · cases h
    exact .inl rfl
  · split at h
    · cases h
      exact .inr rfl
    · split at h
      · cases h
        exact .inl rfl
      · cases h

theorem writeFromOffsetTo_ne_txBufFull {S : Type} [StreamIo S] (dst dst' : S) :
    pkt.writeFromOffsetTo offset dst count ≠ (dst', .error (.guestMemoryMmap .txBufFull)) := by
  intro h
  unfold writeFromOffsetTo at h
  split at h
  · rename_i e he
    cases h
    rcases bufRegionAddr_error he with h | h <;> cases h
  split at h
  · rename_i dst₁ e hw
    cases h
    exact StreamIo.write_ne_txBufFull hw
  · cases h

theorem readAtOffsetFrom_ok {S : Type} [StreamIo S] {src src' : S} {pkt' : VsockPacket} {n : Nat}
    (h : pkt.readAtOffsetFrom offset src count = (pkt', src', .ok n)) :
    pkt'.hdr = pkt.hdr ∧ n ≤ count := by
  unfold readAtOffsetFrom at h
  split at h
  · cases h
  split at h
  · cases h
  · rename_i bytes hbytes
    cases h
    exact ⟨rfl, StreamIo.read_length_le hbytes⟩

theorem writeFromOffsetTo_ok {W : Type} [ByteSink W] {dst dst' : W} {n : Nat}
    (h : pkt.writeFromOffsetTo offset dst count = (dst', .ok n)) :
    n ≤ count ∧ ∃ buf, pkt.bufRegionAddr offset count = .ok buf := by
  unfold writeFromOffsetTo at h
  split at h
  · cases h
  rename_i buf hbuf
  split at h
  · cases h
  · rename_i dst₁ n₁ hw
    cases h
    have hle := ByteSink.write_le hw
    simp only [List.length_take] at hle
    exact ⟨Nat.le_trans hle (Nat.min_le_left _ _), buf, hbuf⟩

theorem writeFromOffsetTo_sinkError {W : Type} [ByteSink W] {dst dst' : W} {e : IoError}
    (h : pkt.writeFromOffsetTo offset dst count = (dst', .error (.guestMemoryMmap e))) :
    ∃ buf, pkt.bufRegionAddr offset count = .ok buf := by
  unfold writeFromOffsetTo at h
  split at h
  · rename_i e' he
    cases h
    rcases bufRegionAddr_error he with h | h <;> cases h
  · rename_i buf hbuf
    exact ⟨buf, hbuf⟩

theorem writeFromOffsetTo_of_error {W : Type} [ByteSink W] (dst : W) {e : VsockError}
    (h : pkt.bufRegionAddr offset count = .error e) :
    pkt.writeFromOffsetTo offset dst count = (dst, .error e) := by
  simp only [writeFromOffsetTo, h]

end VsockPacket

end Vsock
end Firecracker
