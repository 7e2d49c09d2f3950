import Firecracker.Dumbo.Tcp
import Firecracker.Lib.Loop
import Firecracker.Lib.NetBytes
import Firecracker.Lib.OnesComplement

/-!
# Firecracker.Dumbo.Pdu

TCP segments as the bytes they are (`dumbo::pdu::tcp`), and the checksum of `dumbo::pdu`. A
segment is its byte string: the getters read the header fields in network byte order, `from_bytes`
checks the header length and, when asked, the checksum, and `write_segment` writes a header, the
MSS option and a payload into a buffer, then `finalize` adds the ports and the checksum.

`parse_mss_option_unchecked` walks the options with a `while` loop whose index moves by a length
byte the sender chose; it is modelled by its loop body (`parseMssOptionStep`) and `Loop.run`. An
option of unknown kind whose length byte is `0` leaves the index where it is, and the loop never
ends (`parseMssOption_stuck`); without such an option it ends (`parseMssOption_terminates`).
-/

namespace Firecracker
namespace Dumbo
namespace Pdu

open NetBytes

/-- `ChecksumProto`: the protocol whose checksum is computed. -/
inductive ChecksumProto
  | tcp
  | udp
  deriving DecidableEq, Repr

def ChecksumProto.number : ChecksumProto → Nat
  | .tcp => 0x06
  | .udp => 0x11

/-- The big-endian words of `bytes` at `0, 2, …, 2 (n - 1)`, added: the loop
`for i in 0..len / 2`. -/
def wordSum (bytes : List (BitVec 8)) : Nat → Nat
  | 0 => 0
  | n + 1 => wordSum bytes n + (ntohs bytes (2 * n)).toNat

/-- `compute_checksum`. Its additions are on a `u32` and wrap, so the sum is taken modulo `2^32`
before the carries are folded. -/
def computeChecksum (bytes : List (BitVec 8)) (srcAddr dstAddr : BitVec 32)
    (protocol : ChecksumProto) : BitVec 16 :=
  let a := srcAddr.toNat
  let b := dstAddr.toNat
  let len := bytes.length
  let oddByte := if len % 2 ≠ 0 then (bytes.getD (len - 1) 0).toNat <<< 8 else 0
  let sum := (a &&& 0xffff) + (a >>> 16) + (b &&& 0xffff) + (b >>> 16) + protocol.number + len +
    wordSum bytes (len / 2) + oddByte
  let csum := ~~~(BitVec.ofNat 16 (OnesComplement.fold (sum % 2 ^ 32)))
  if protocol = .udp ∧ csum = 0 then ~~~csum else csum

namespace Tcp

def sourcePortOffset : Nat := 0
def destinationPortOffset : Nat := 2
def seqNumberOffset : Nat := 4
def ackNumberOffset : Nat := 8
def dataoffRsvdNsOffset : Nat := 12
def flagsAfterNsOffset : Nat := 13
def windowSizeOffset : Nat := 14
def checksumOffset : Nat := 16
def urgPointerOffset : Nat := 18

/-- `MAX_HEADER_LEN`; `OPTIONS_OFFSET` and `OPTION_LEN_MSS` are `optionsOffset` and
`optionLenMss`. -/
def maxHeaderLen : Nat := 60

def optionKindEol : BitVec 8 := 0x00
def optionKindNop : BitVec 8 := 0x01
def optionKindMss : BitVec 8 := 0x02

def mssMin : BitVec 16 := 100

/-! ### Reading a segment -/

section Getters

variable (bytes : List (BitVec 8))

def sourcePort : BitVec 16 := ntohs bytes sourcePortOffset
def destinationPort : BitVec 16 := ntohs bytes destinationPortOffset
def sequenceNumber : BitVec 32 := ntohl bytes seqNumberOffset
def ackNumber : BitVec 32 := ntohl bytes ackNumberOffset

/-- `header_len_rsvd_ns`: the data offset in the high nibble, counted in 32-bit words. -/
def headerLenRsvdNs : Nat × BitVec 8 × Bool :=
  let value := bytes.getD dataoffRsvdNsOffset 0
  let dataOffset := value >>> 4
  (dataOffset.toNat * 4, value &&& 0x0e, value &&& 1 != 0)

def headerLen : Nat := (headerLenRsvdNs bytes).1

/-- `flags_after_ns`: `Flags::from_bits_truncate` keeps the byte, every bit of which is a flag. -/
def flagsAfterNs : BitVec 8 := bytes.getD flagsAfterNsOffset 0

def windowSize : BitVec 16 := ntohs bytes windowSizeOffset
def checksum : BitVec 16 := ntohs bytes checksumOffset
def urgentPointer : BitVec 16 := ntohs bytes urgPointerOffset

/-- `options_unchecked`: the bytes from `OPTIONS_OFFSET` to `header_len`. -/
def optionsUnchecked (headerLen : Nat) : List (BitVec 8) := (bytes.take headerLen).drop optionsOffset

def payloadUnchecked (headerLen : Nat) : List (BitVec 8) := bytes.drop headerLen

def payload : List (BitVec 8) := payloadUnchecked bytes (headerLen bytes)

def payloadLen : Nat := bytes.length - headerLen bytes

end Getters

/-! ### The MSS option -/

/-- One iteration of the loop of `parse_mss_option_unchecked` over the options `b`, at index `i`:
stop at the end of the options or at `EOL`, step over a `NOP`, read an MSS option, and skip any
other option by its length byte. -/
def parseMssOptionStep (b : List (BitVec 8)) (i : Nat) :
    Loop.Step Nat (Except TcpError (Option (BitVec 16))) :=
  if i + 3 < b.length then
    let kind := b.getD i 0
    if kind = optionKindEol then .done (.ok none)
    else if kind = optionKindNop then .next (i + 1)
    else if kind = optionKindMss then
      let mss := ntohs b (i + 2)
      if mss < mssMin then .done (.error .mssOption) else .done (.ok (some mss))
    else .next (i + (b.getD (i + 1) 0).toNat)
  else .done (.ok none)

/-- `parse_mss_option_unchecked`, with at most `fuel` iterations of its loop: `none` while the loop
is still running. -/
def parseMssOptionUnchecked (bytes : List (BitVec 8)) (headerLen fuel : Nat) :
    Option (Except TcpError (Option (BitVec 16))) :=
  Loop.run (parseMssOptionStep (optionsUnchecked bytes headerLen)) fuel 0

/-- An index where the loop does not move: an option of unknown kind with length byte `0`. -/
def Stuck (b : List (BitVec 8)) (i : Nat) : Prop :=
  i + 3 < b.length ∧ b.getD i 0 ≠ optionKindEol ∧ b.getD i 0 ≠ optionKindNop ∧
    b.getD i 0 ≠ optionKindMss ∧ b.getD (i + 1) 0 = 0

instance (b : List (BitVec 8)) (i : Nat) : Decidable (Stuck b i) :=
  inferInstanceAs (Decidable (_ ∧ _))

theorem parseMssOptionStep_of_stuck {b : List (BitVec 8)} {i : Nat} (h : Stuck b i) :
    parseMssOptionStep b i = .next i := by
  obtain ⟨hi, heol, hnop, hmss, hzero⟩ := h
  unfold parseMssOptionStep
  rw [if_pos hi]
  dsimp only
  rw [if_neg heol, if_neg hnop, if_neg hmss, hzero]
  simp

theorem parseMssOptionStep_next_gt {b : List (BitVec 8)} {i i' : Nat} (h : ¬ Stuck b i)
    (hnext : parseMssOptionStep b i = .next i') : i < i' := by
  unfold parseMssOptionStep at hnext
  split at hnext
  · rename_i hi
    dsimp only at hnext
    split at hnext
    · cases hnext
    rename_i heol
    split at hnext
    · cases hnext
      omega
    rename_i hnop
    split at hnext
    · split at hnext <;> cases hnext
    rename_i hmss
    cases hnext
    have hlen : b.getD (i + 1) 0 ≠ 0 := fun hz => h ⟨hi, heol, hnop, hmss, hz⟩
    have hpos : 0 < (b.getD (i + 1) 0).toNat := by
      rw [Nat.pos_iff_ne_zero, Ne, ← BitVec.toNat_zero (w := 8)]
      exact fun heq => hlen (BitVec.eq_of_toNat_eq heq)
    omega
  · cases hnext

/-- **An option of length `0` stops the loop.** From an index where the options hold an option of
unknown kind whose length byte is `0`, `parse_mss_option_unchecked` runs forever: no fuel is
enough. -/
theorem parseMssOption_stuck {b : List (BitVec 8)} {i : Nat} (h : Stuck b i) :
    ¬ Loop.Terminates (parseMssOptionStep b) i :=
  Loop.not_terminates_of_next_self (parseMssOptionStep_of_stuck h)

/-- Options `[3, 0, 0, 0]` (a window scale option whose length byte is `0`) at index `0`. -/
theorem parseMssOption_stuck_windowScale :
    Stuck [3, 0, 0, 0] 0 ∧ ¬ Loop.Terminates (parseMssOptionStep [3, 0, 0, 0]) 0 := by
  have h : Stuck [3, 0, 0, 0] 0 := by decide
  exact ⟨h, parseMssOption_stuck h⟩

theorem parseMssOption_terminates {b : List (BitVec 8)} {i : Nat}
    (h : ∀ j, i ≤ j → ¬ Stuck b j) :
    ∃ r, Loop.run (parseMssOptionStep b) (b.length + 1 - i + 1) i = some r := by
  have hstep : ∀ s s', (∀ j, s ≤ j → ¬ Stuck b j) → parseMssOptionStep b s = .next s' →
      (∀ j, s' ≤ j → ¬ Stuck b j) ∧ b.length + 1 - s' < b.length + 1 - s := by
    intro s s' hs hnext
    have hlt := parseMssOptionStep_next_gt (hs s le_rfl) hnext
    have hin : s + 3 < b.length := by
      unfold parseMssOptionStep at hnext
      split at hnext
      · assumption
      · cases hnext
    exact ⟨fun j hj => hs j (by omega), by omega⟩
  exact Loop.run_of_measure (fun s => b.length + 1 - s) hstep h

/-! ### `from_bytes` -/

/-- `TcpSegment::from_bytes`: at least a header without options, a header length between that and
the smaller of `MAX_HEADER_LEN` and the length, and, when asked, a checksum that verifies. -/
def fromBytes (bytes : List (BitVec 8)) (verifyChecksum : Option (BitVec 32 × BitVec 32)) :
    Except TcpError (List (BitVec 8)) :=
  if bytes.length < optionsOffset then .error .sliceTooShort
  else
    let headerLen := headerLen bytes
    if headerLen < optionsOffset ∨ headerLen > min maxHeaderLen bytes.length then .error .headerLen
    else
      match verifyChecksum with
      | some (srcAddr, dstAddr) =>
        if computeChecksum bytes srcAddr dstAddr .tcp ≠ 0 then .error .checksum else .ok bytes
      | none => .ok bytes

/-- `is_valid_syn`: exactly the `SYN` flag, and no payload. -/
def isValidSyn (bytes : List (BitVec 8)) : Bool :=
  flagsAfterNs bytes == TcpFlags.syn && payloadLen bytes == 0

/-- **A `SYN` whose options never parse.** A 24-byte segment with the `SYN` flag, a header length
of 24 and the options `[3, 0, 0, 0]`: `from_bytes` accepts it (the handler calls it without a
checksum), it passes `is_valid_syn`, and `parse_mss_option_unchecked`, which
`Connection::passive_open` calls on it through `parse_mss_option`, does not finish for any fuel. -/
theorem synWithZeroLengthOption_counterexample :
    let syn : List (BitVec 8) :=
      [0, 7, 0, 80, 0, 0, 0, 100, 0, 0, 0, 0, 0x60, TcpFlags.syn, 3, 232, 0, 0, 0, 0, 3, 0, 0, 0]
    fromBytes syn none = .ok syn ∧ isValidSyn syn = true ∧ headerLen syn = 24 ∧
      ∀ fuel, parseMssOptionUnchecked syn (headerLen syn) fuel = none := by
  intro syn
  have hlen : headerLen syn = 24 := by decide
  have hstuck : Stuck (optionsUnchecked syn 24) 0 := by decide
  refine ⟨by decide, by decide, hlen, fun fuel => ?_⟩
  rw [parseMssOptionUnchecked, hlen]
  exact Loop.run_of_next_self (parseMssOptionStep_of_stuck hstuck) fuel

/-! ### Writing a segment -/

/-- `set_header_len_rsvd_ns`: the header length, a multiple of 4, shifted into the data offset
nibble, the reserved bits cleared, and `NS`. -/
def setHeaderLenRsvdNs (bytes : List (BitVec 8)) (headerLen : Nat) (ns : Bool) :
    List (BitVec 8) :=
  let value : BitVec 8 := BitVec.ofNat 8 headerLen <<< 2
  bytes.set dataoffRsvdNsOffset (if ns then value ||| 1 else value)

def setFlagsAfterNs (bytes : List (BitVec 8)) (flags : BitVec 8) : List (BitVec 8) :=
  bytes.set flagsAfterNsOffset flags

/-- `write_incomplete_segment` into the buffer `buf`: the segment it writes, shrunk to its end. The
ports and the checksum keep the bytes `buf` had; `finalize` writes them. -/
def writeIncompleteSegment (buf : List (BitVec 8)) (seqNumber ackNumber : BitVec 32)
    (flagsAfterNs : BitVec 8) (windowSize : BitVec 16) (mssOption : Option (BitVec 16))
    (mssRemaining : BitVec 16) (payload : Option (List (BitVec 8) × Nat)) :
    Except TcpError (List (BitVec 8)) :=
  if mssOption.isSome ∧ mssRemaining.toNat < optionLenMss then .error .mssRemaining
  else
    let optionsLen := if mssOption.isSome then optionLenMss else 0
    let mssLeft := mssRemaining.toNat - optionsLen
    let segmentLen := optionsOffset + optionsLen
    if buf.length < segmentLen then .error .sliceTooShort
    else
      let segment := htonl (htonl buf seqNumberOffset seqNumber) ackNumberOffset ackNumber
      let segment := setHeaderLenRsvdNs segment (optionsOffset + optionsLen) false
      let segment := htons (setFlagsAfterNs segment flagsAfterNs) windowSizeOffset windowSize
      let segment := htons segment urgPointerOffset 0
      let segment := match mssOption with
        | some value =>
          htons ((segment.set optionsOffset optionKindMss).set (optionsOffset + 1)
            (BitVec.ofNat 8 optionLenMss)) (optionsOffset + 2) value
        | none => segment
      match payload with
      | none => .ok (segment.take segmentLen)
      | some (payloadBuf, maxPayloadBytes) =>
        let leftToRead := min payloadBuf.length maxPayloadBytes
        let roomForPayload := min (min (segment.length - segmentLen) mssLeft) leftToRead
        if roomForPayload = 0 then .error .emptyPayload
        else .ok (segment.take segmentLen ++ payloadBuf.take roomForPayload)

/-- `Incomplete<TcpSegment>::finalize`: the ports, then the checksum over the segment with a zero
checksum field, when the addresses are given. -/
def finalize (segment : List (BitVec 8)) (srcPort dstPort : BitVec 16)
    (computeChecksum : Option (BitVec 32 × BitVec 32)) : List (BitVec 8) :=
  let segment := htons (htons segment sourcePortOffset srcPort) destinationPortOffset dstPort
  match computeChecksum with
  | some (srcAddr, dstAddr) =>
    let segment := htons segment checksumOffset 0
    htons segment checksumOffset (Pdu.computeChecksum segment srcAddr dstAddr .tcp)
  | none => segment

def writeSegment (buf : List (BitVec 8)) (srcPort dstPort : BitVec 16)
    (seqNumber ackNumber : BitVec 32) (flagsAfterNs : BitVec 8) (windowSize : BitVec 16)
    (mssOption : Option (BitVec 16)) (mssRemaining : BitVec 16)
    (payload : Option (List (BitVec 8) × Nat)) (computeChecksum : Option (BitVec 32 × BitVec 32)) :
    Except TcpError (List (BitVec 8)) :=
  (writeIncompleteSegment buf seqNumber ackNumber flagsAfterNs windowSize mssOption mssRemaining
    payload).map fun segment => finalize segment srcPort dstPort computeChecksum

end Tcp

end Pdu
end Dumbo
end Firecracker
