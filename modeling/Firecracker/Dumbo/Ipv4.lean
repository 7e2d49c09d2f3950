import Firecracker.Dumbo.TcpRoundTrip

/-!
# Firecracker.Dumbo.Ipv4

`IPv4Packet::from_bytes` of `dumbo::pdu::ipv4`, and the `u32` accumulator of `compute_checksum`.

`from_bytes` accepts a slice whose length is the packet's 16-bit `total_len` and whose header is
at least `OPTIONS_OFFSET` bytes, so the payload of an accepted packet is at most `65535 - 20`
bytes (`fromBytes_payload_length`).

`compute_checksum` adds the halves of both addresses, the protocol, the length, the big-endian
words of the bytes and the odd last byte to a `u32` (`checksumAddends`). For at most 65535 bytes
the whole sum stays below `2 ^ 32` (`checksumSum_lt`), so no addition wraps
(`checksumAddends_take_sum_lt`), and the carry folding loop ends below `2 ^ 16`. That covers the
payload of every packet `from_bytes` accepts (`fromBytes_payload_checksum`).
-/

namespace Firecracker
namespace Dumbo
namespace Pdu

open NetBytes

/-! ### The accumulator of `compute_checksum` -/

/-- The values `compute_checksum` adds to its `u32` accumulator, in the order it adds them: the
halves of the two addresses, the protocol, the length, the words of `for i in 0..len / 2`, and the
odd last byte shifted up. -/
def checksumAddends (bytes : List (BitVec 8)) (srcAddr dstAddr : BitVec 32)
    (protocol : ChecksumProto) : List Nat :=
  let a := srcAddr.toNat
  let b := dstAddr.toNat
  let len := bytes.length
  [a &&& 0xffff, a >>> 16, b &&& 0xffff, b >>> 16, protocol.number, len] ++
    (List.range (len / 2)).map (fun i => (ntohs bytes (2 * i)).toNat) ++
    (if len % 2 ≠ 0 then [(bytes.getD (len - 1) 0).toNat <<< 8] else [])

theorem wordSum_eq_sum (bytes : List (BitVec 8)) (n : Nat) :
    wordSum bytes n = ((List.range n).map fun i => (ntohs bytes (2 * i)).toNat).sum := by
  induction n with
  | zero => rfl
  | succ n ih => rw [wordSum, ih, List.range_succ, List.map_append, List.sum_append]; rfl

theorem checksumAddends_sum (bytes : List (BitVec 8)) (srcAddr dstAddr : BitVec 32)
    (protocol : ChecksumProto) :
    (checksumAddends bytes srcAddr dstAddr protocol).sum = checksumSum bytes srcAddr dstAddr protocol := by
  simp only [checksumAddends, checksumSum, wordSum_eq_sum, List.sum_append, List.sum_cons,
    List.sum_nil]
  split <;> simp only [List.sum_cons, List.sum_nil] <;> omega

theorem checksumSum_le_words (bytes : List (BitVec 8)) (srcAddr dstAddr : BitVec 32)
    (protocol : ChecksumProto) :
    checksumSum bytes srcAddr dstAddr protocol ≤
      2 ^ 19 + bytes.length + wordSum bytes (bytes.length / 2) := by
  have hproto : protocol.number ≤ 0x11 := by cases protocol <;> decide
  have ha := Nat.and_le_right (n := srcAddr.toNat) (m := 0xffff)
  have hb := Nat.and_le_right (n := dstAddr.toNat) (m := 0xffff)
  have ha' : srcAddr.toNat >>> 16 < 2 ^ 16 := by
    rw [Nat.shiftRight_eq_div_pow]
    have := srcAddr.isLt
    omega
  have hb' : dstAddr.toNat >>> 16 < 2 ^ 16 := by
    rw [Nat.shiftRight_eq_div_pow]
    have := dstAddr.isLt
    omega
  have hodd : (if bytes.length % 2 ≠ 0 then (bytes.getD (bytes.length - 1) 0).toNat <<< 8 else 0)
      < 2 ^ 16 := by
    split
    · rw [Nat.shiftLeft_eq]
      have := (bytes.getD (bytes.length - 1) 0).isLt
      omega
    · omega
  simp only [checksumSum]
  omega

section Bound

variable (bytes : List (BitVec 8)) (srcAddr dstAddr : BitVec 32) (protocol : ChecksumProto)

theorem checksumSum_lt (hlen : bytes.length ≤ 65535) :
    checksumSum bytes srcAddr dstAddr protocol < 2 ^ 32 := by
  have hwords : wordSum bytes (bytes.length / 2) ≤ 65535 * 32767 :=
    Nat.le_trans (wordSum_le bytes _) (Nat.mul_le_mul_left _ (by omega))
  have := checksumSum_le_words bytes srcAddr dstAddr protocol
  omega

theorem checksumAddends_take_sum_lt (hlen : bytes.length ≤ 65535) (k : Nat) :
    ((checksumAddends bytes srcAddr dstAddr protocol).take k).sum < 2 ^ 32 := by
  have hsplit := List.sum_take_add_sum_drop (checksumAddends bytes srcAddr dstAddr protocol) k
  rw [checksumAddends_sum] at hsplit
  have := checksumSum_lt bytes srcAddr dstAddr protocol hlen
  omega

/-- **`compute_checksum`'s accumulator never overflows.** For at most 65535 bytes, any addresses
and either protocol, every value the `u32` sum takes is below `2 ^ 32`, so the sum the carries are
folded from is the true one, and folding ends below `2 ^ 16`. -/
theorem computeChecksum_noOverflow (hlen : bytes.length ≤ 65535) :
    (∀ k, ((checksumAddends bytes srcAddr dstAddr protocol).take k).sum < 2 ^ 32) ∧
      checksumSum bytes srcAddr dstAddr protocol % 2 ^ 32 = checksumSum bytes srcAddr dstAddr protocol ∧
      OnesComplement.fold (checksumSum bytes srcAddr dstAddr protocol) < 2 ^ 16 :=
  ⟨checksumAddends_take_sum_lt bytes srcAddr dstAddr protocol hlen,
    Nat.mod_eq_of_lt (checksumSum_lt bytes srcAddr dstAddr protocol hlen), OnesComplement.fold_lt _⟩

end Bound

theorem computeChecksum_noOverflow_oddBytes :
    (∀ k, ((checksumAddends [0xff, 0xff, 0xff] 0xffffffff 0xffffffff .udp).take k).sum < 2 ^ 32) ∧
      checksumSum [0xff, 0xff, 0xff] 0xffffffff 0xffffffff .udp % 2 ^ 32 =
        checksumSum [0xff, 0xff, 0xff] 0xffffffff 0xffffffff .udp ∧
      OnesComplement.fold (checksumSum [0xff, 0xff, 0xff] 0xffffffff 0xffffffff .udp) < 2 ^ 16 :=
  computeChecksum_noOverflow [0xff, 0xff, 0xff] 0xffffffff 0xffffffff .udp (by decide)

end Pdu

namespace Ipv4

open NetBytes

inductive Error
  | checksum
  | headerLen
  | invalidTotalLen
  | sliceExactLen
  | sliceTooShort
  | version
  deriving DecidableEq, Repr

def versionAndIhlOffset : Nat := 0
def totalLenOffset : Nat := 2
def optionsOffset : Nat := 20

def ipv4Version : BitVec 8 := 0x04

section Getters

variable (bytes : List (BitVec 8))

/-- `version_and_header_len`: the version in the high nibble, and the header length, which the
low nibble counts in 32-bit words. -/
def versionAndHeaderLen : BitVec 8 × Nat :=
  let x := bytes.getD versionAndIhlOffset 0
  let ihl := x &&& 0x0f
  (x >>> 4, (ihl <<< 2).toNat)

def headerLen : Nat := (versionAndHeaderLen bytes).2

def totalLen : BitVec 16 := ntohs bytes totalLenOffset

def payloadUnchecked (headerLen : Nat) : List (BitVec 8) := bytes.drop headerLen

def payload : List (BitVec 8) := payloadUnchecked bytes (headerLen bytes)

/-- `compute_checksum_unchecked`: the header's words, added on a `u32` and folded. -/
def computeChecksumUnchecked (headerLen : Nat) : BitVec 16 :=
  ~~~(BitVec.ofNat 16 (OnesComplement.fold (Pdu.wordSum bytes (headerLen / 2) % 2 ^ 32)))

end Getters

/-- `IPv4Packet::from_bytes`: the packet is the slice itself, once its length, version, total
length, header length and, when asked, its header checksum pass. -/
def fromBytes (bytes : List (BitVec 8)) (verifyChecksum : Bool) : Except Error (List (BitVec 8)) :=
  let bytesLen := bytes.length
  if bytesLen < optionsOffset then .error .sliceTooShort
  else
    let (version, headerLen) := versionAndHeaderLen bytes
    if version ≠ ipv4Version then .error .version
    else
      let totalLen := (totalLen bytes).toNat
      if totalLen < headerLen then .error .invalidTotalLen
      else if totalLen ≠ bytesLen then .error .sliceExactLen
      else if headerLen < optionsOffset then .error .headerLen
      else if verifyChecksum ∧ computeChecksumUnchecked bytes headerLen ≠ 0 then .error .checksum
      else .ok bytes

theorem fromBytes_ok {bytes p : List (BitVec 8)} {verifyChecksum : Bool}
    (h : fromBytes bytes verifyChecksum = .ok p) :
    p = bytes ∧ bytes.length = (totalLen bytes).toNat ∧ optionsOffset ≤ headerLen bytes ∧
      headerLen bytes ≤ bytes.length := by
  unfold fromBytes at h
  rcases hv : versionAndHeaderLen bytes with ⟨version, hl⟩
  have hhl : headerLen bytes = hl := by rw [headerLen, hv]
  by_cases hshort : bytes.length < optionsOffset
  · rw [if_pos hshort] at h
    cases h
  rw [if_neg hshort, hv] at h
  dsimp only at h
  split at h
  · cases h
  split at h
  · cases h
  split at h
  · cases h
  split at h
  · cases h
  split at h
  · cases h
  rename_i hlt hne hhdr _
  cases h
  refine ⟨rfl, (Decidable.not_not.1 hne).symm, ?_, ?_⟩ <;> omega

/-- **The payload of an accepted packet is at most `65535 - 20` bytes**: `total_len` is a 16-bit
field and the header takes at least `OPTIONS_OFFSET` bytes. -/
theorem fromBytes_payload_length {bytes p : List (BitVec 8)} {verifyChecksum : Bool}
    (h : fromBytes bytes verifyChecksum = .ok p) : (payload p).length ≤ 65535 - optionsOffset := by
  obtain ⟨rfl, hlen, hhdr, -⟩ := fromBytes_ok h
  have htotal := (totalLen p).isLt
  simp only [payload, payloadUnchecked, List.length_drop]
  omega

theorem fromBytes_payload_checksum {bytes p : List (BitVec 8)} {verifyChecksum : Bool}
    (h : fromBytes bytes verifyChecksum = .ok p) (srcAddr dstAddr : BitVec 32)
    (protocol : Pdu.ChecksumProto) (k : Nat) :
    ((Pdu.checksumAddends (payload p) srcAddr dstAddr protocol).take k).sum < 2 ^ 32 := by
  have hlen := fromBytes_payload_length h
  unfold optionsOffset at hlen
  exact Pdu.checksumAddends_take_sum_lt _ srcAddr dstAddr protocol (by omega) k

end Ipv4

end Dumbo
end Firecracker
