import Firecracker.Dumbo.Pdu

/-!
# Firecracker.Dumbo.TcpRoundTrip

What `TcpSegment::write_segment` writes, `TcpSegment::from_bytes` reads back: the ports, the
sequence and acknowledgement numbers, the flags, the window, the header length, the MSS option and
the payload, and with the checksum addresses given the checksum verifies.

The proof follows the bytes. `Written` says what each header field of a segment holds; the header
writes of `write_incomplete_segment` establish it (`writeIncompleteSegment_written`), and
`finalize`, which only writes the ports and the checksum, keeps it (`Written.finalize`). The
checksum verifies because `finalize` computes it with the checksum field zero and then stores it
in a 16-bit word of the segment: the sum the receiver forms is the sender's sum plus the
complement of its fold (`computeChecksum_htons_checksum`).
-/

namespace Firecracker
namespace Dumbo
namespace Pdu

open NetBytes

/-! ### The checksum -/

theorem wordSum_congr {b b' : List (BitVec 8)} {n : Nat}
    (h : ∀ m, m < n → ntohs b' (2 * m) = ntohs b (2 * m)) : wordSum b' n = wordSum b n := by
  induction n with
  | zero => rfl
  | succ n ih =>
    simp only [wordSum]
    rw [ih fun m hm => h m (by omega), h n (by omega)]

theorem wordSum_htons {b : List (BitVec 8)} {k n : Nat} (v : BitVec 16) (hk : k < n)
    (hlen : 2 * k + 1 < b.length) :
    wordSum (htons b (2 * k) v) n + (ntohs b (2 * k)).toNat = wordSum b n + v.toNat := by
  induction n with
  | zero => omega
  | succ n ih =>
    simp only [wordSum]
    by_cases hkn : k = n
    · subst hkn
      have hbefore : wordSum (htons b (2 * k) v) k = wordSum b k :=
        wordSum_congr fun m hm => ntohs_htons_of_disjoint v (by omega)
      rw [hbefore, ntohs_htons v hlen]
      omega
    · have := ih (by omega)
      rw [ntohs_htons_of_disjoint v (by omega)]
      omega

theorem wordSum_le (b : List (BitVec 8)) (n : Nat) : wordSum b n ≤ 65535 * n := by
  induction n with
  | zero => rfl
  | succ n ih =>
    have := (ntohs b (2 * n)).isLt
    simp only [wordSum]
    omega

/-- The sum `compute_checksum` folds, before it wraps to 32 bits. -/
def checksumSum (bytes : List (BitVec 8)) (srcAddr dstAddr : BitVec 32) (protocol : ChecksumProto) :
    Nat :=
  let a := srcAddr.toNat
  let b := dstAddr.toNat
  let len := bytes.length
  (a &&& 0xffff) + (a >>> 16) + (b &&& 0xffff) + (b >>> 16) + protocol.number + len +
    wordSum bytes (len / 2) + (if len % 2 ≠ 0 then (bytes.getD (len - 1) 0).toNat <<< 8 else 0)

theorem computeChecksum_tcp (bytes : List (BitVec 8)) (srcAddr dstAddr : BitVec 32) :
    computeChecksum bytes srcAddr dstAddr .tcp =
      ~~~(BitVec.ofNat 16 (OnesComplement.fold (checksumSum bytes srcAddr dstAddr .tcp % 2 ^ 32))) := by
  simp [computeChecksum, checksumSum]

theorem checksumSum_le (bytes : List (BitVec 8)) (srcAddr dstAddr : BitVec 32) :
    checksumSum bytes srcAddr dstAddr .tcp ≤
      2 ^ 19 + bytes.length + wordSum bytes (bytes.length / 2) := by
  have ha := Nat.and_le_right (n := srcAddr.toNat) (m := 0xffff)
  have hb := Nat.and_le_right (n := dstAddr.toNat) (m := 0xffff)
  have ha' : srcAddr.toNat >>> 16 < 2 ^ 16 := by
    rw [Nat.shiftRight_eq_div_pow]
    have := srcAddr.isLt
    omega
  have hb' : dstAddr.toNat >>> 16 < 2 ^ 16 := by
    rw [Nat.shiftRight_eq_div_pow]
    have := dstAddr.isLt
    omega
  have hodd : (if bytes.length % 2 ≠ 0 then (bytes.getD (bytes.length - 1) 0).toNat <<< 8 else 0)
      < 2 ^ 16 := by
    split
    · rw [Nat.shiftLeft_eq]
      have := (bytes.getD (bytes.length - 1) 0).isLt
      omega
    · omega
  simp only [checksumSum, ChecksumProto.number]
  omega

/-- **The checksum `finalize` writes verifies.** For a segment of 18 to 65555 bytes whose
checksum field is zero, storing `compute_checksum` of it in that field makes `compute_checksum`
of the result zero. -/
theorem computeChecksum_htons_checksum {b : List (BitVec 8)} (srcAddr dstAddr : BitVec 32)
    (hlen : 18 ≤ b.length) (hmax : b.length ≤ 65555) (hzero : ntohs b 16 = 0) :
    computeChecksum (htons b 16 (computeChecksum b srcAddr dstAddr .tcp)) srcAddr dstAddr .tcp =
      0 := by
  generalize hc : computeChecksum b srcAddr dstAddr .tcp = c
  have hword := wordSum_htons (b := b) (k := 8) (n := b.length / 2) c (by omega) (by omega)
  rw [show 2 * 8 = 16 from rfl, hzero, show (0 : BitVec 16).toNat = 0 from rfl] at hword
  have hodd : (htons b 16 c).getD (b.length - 1) 0 = b.getD (b.length - 1) 0 ∨
      b.length % 2 = 0 := by
    by_cases hpar : b.length % 2 = 0
    · exact .inr hpar
    · exact .inl (getD_htons_of_ne c (by omega) (by omega))
  have hsum : checksumSum (htons b 16 c) srcAddr dstAddr .tcp =
      checksumSum b srcAddr dstAddr .tcp + c.toNat := by
    simp only [checksumSum, length_htons]
    rcases hodd with hodd | hpar
    · rw [hodd]
      omega
    · simp only [hpar, ne_eq, not_true_eq_false, if_false]
      omega
  have hbound := checksumSum_le b srcAddr dstAddr
  have hwords := wordSum_le b (b.length / 2)
  have hfold := OnesComplement.fold_lt (checksumSum b srcAddr dstAddr .tcp)
  have hc' : c.toNat = 65535 - OnesComplement.fold (checksumSum b srcAddr dstAddr .tcp) := by
    rw [← hc, computeChecksum_tcp, BitVec.toNat_not, BitVec.toNat_ofNat,
      Nat.mod_eq_of_lt (by omega : checksumSum b srcAddr dstAddr .tcp < 2 ^ 32)]
    omega
  rw [computeChecksum_tcp, hsum, Nat.mod_eq_of_lt (by omega), hc',
    OnesComplement.fold_add_complement]
  rfl

namespace Tcp

/-! ### What the header holds -/

/-- The length of the options `write_incomplete_segment` writes: the MSS option, or none. -/
def optionsLen (mssOption : Option (BitVec 16)) : Nat :=
  if mssOption.isSome then optionLenMss else 0

/-- What the header of a segment holds after `write_incomplete_segment`: the fields it was given,
the header length of the options, the MSS option, and the payload after the header. -/
structure Written (s : List (BitVec 8)) (seqNum ackNum : BitVec 32) (flags : BitVec 8)
    (window : BitVec 16) (mssOption : Option (BitVec 16)) (pay : List (BitVec 8)) : Prop where
  length : s.length = optionsOffset + optionsLen mssOption + pay.length
  seq : ntohl s 4 = seqNum
  ack : ntohl s 8 = ackNum
  dataOff : s.getD 12 0 = BitVec.ofNat 8 (optionsOffset + optionsLen mssOption) <<< 2
  flags : s.getD 13 0 = flags
  window : ntohs s 14 = window
  mss : ∀ v, mssOption = some v →
    s.getD 20 0 = optionKindMss ∧ s.getD 21 0 = BitVec.ofNat 8 optionLenMss ∧ ntohs s 22 = v
  payload : s.drop (optionsOffset + optionsLen mssOption) = pay

theorem header_fields (buf : List (BitVec 8)) (seqNum ackNum : BitVec 32) (flags : BitVec 8)
    (window : BitVec 16) (hl : Nat) (hlen : 20 ≤ buf.length) :
    let S := htons (htons (setFlagsAfterNs (setHeaderLenRsvdNs (htonl (htonl buf seqNumberOffset
      seqNum) ackNumberOffset ackNum) hl false) flags) windowSizeOffset window) urgPointerOffset 0
    S.length = buf.length ∧ ntohl S 4 = seqNum ∧ ntohl S 8 = ackNum ∧
      S.getD 12 0 = BitVec.ofNat 8 hl <<< 2 ∧ S.getD 13 0 = flags ∧ ntohs S 14 = window := by
  intro S
  simp only [S, setFlagsAfterNs, setHeaderLenRsvdNs, seqNumberOffset, ackNumberOffset,
    windowSizeOffset, urgPointerOffset, flagsAfterNsOffset, dataoffRsvdNsOffset,
    Bool.false_eq_true, if_false]
  refine ⟨by simp, ?_, ?_, ?_, ?_, ?_⟩
  · simp (disch := omega) only [ntohl_htons_of_disjoint, ntohl_set_of_ne, ntohl_htonl_of_disjoint]
    exact ntohl_htonl seqNum (by omega)
  · simp (disch := omega) only [ntohl_htons_of_disjoint, ntohl_set_of_ne]
    exact ntohl_htonl ackNum (by simp; omega)
  · rw [getD_htons_of_ne _ (by omega) (by omega), getD_htons_of_ne _ (by omega) (by omega),
      getD_set_of_ne (by omega)]
    exact getD_set_self (by simp; omega)
  · rw [getD_htons_of_ne _ (by omega) (by omega), getD_htons_of_ne _ (by omega) (by omega)]
    exact getD_set_self (by simp; omega)
  · rw [ntohs_htons_of_disjoint _ (by omega)]
    exact ntohs_htons window (by simp; omega)

theorem mssOption_fields (S : List (BitVec 8)) (value : BitVec 16) (hlen : 24 ≤ S.length) :
    let S' := htons ((S.set optionsOffset optionKindMss).set (optionsOffset + 1)
      (BitVec.ofNat 8 optionLenMss)) (optionsOffset + 2) value
    S'.length = S.length ∧ ntohl S' 4 = ntohl S 4 ∧ ntohl S' 8 = ntohl S 8 ∧
      S'.getD 12 0 = S.getD 12 0 ∧ S'.getD 13 0 = S.getD 13 0 ∧ ntohs S' 14 = ntohs S 14 ∧
      S'.getD 20 0 = optionKindMss ∧ S'.getD 21 0 = BitVec.ofNat 8 optionLenMss ∧
      ntohs S' 22 = value := by
  intro S'
  simp only [S', optionsOffset]
  refine ⟨by simp, ?_, ?_, ?_, ?_, ?_, ?_, ?_, ntohs_htons value (by simp; omega)⟩
  · simp (disch := omega) only [ntohl_htons_of_disjoint, ntohl_set_of_ne]
  · simp (disch := omega) only [ntohl_htons_of_disjoint, ntohl_set_of_ne]
  · simp (disch := omega) only [getD_htons_of_ne, getD_set_of_ne]
  · simp (disch := omega) only [getD_htons_of_ne, getD_set_of_ne]
  · simp (disch := omega) only [ntohs_htons_of_disjoint, ntohs_set_of_ne]
  · rw [getD_htons_of_ne _ (by omega) (by omega), getD_set_of_ne (by omega)]
    exact getD_set_self (by omega)
  · rw [getD_htons_of_ne _ (by omega) (by omega)]
    exact getD_set_self (by simp; omega)

theorem Written.of_take_append {S pay : List (BitVec 8)} {seqNum ackNum : BitVec 32}
    {flags : BitVec 8} {window : BitVec 16} {mssOption : Option (BitVec 16)}
    (hlen : optionsOffset + optionsLen mssOption ≤ S.length) (hseq : ntohl S 4 = seqNum)
    (hack : ntohl S 8 = ackNum)
    (hoff : S.getD 12 0 = BitVec.ofNat 8 (optionsOffset + optionsLen mssOption) <<< 2)
    (hflags : S.getD 13 0 = flags) (hwin : ntohs S 14 = window)
    (hmss : ∀ v, mssOption = some v →
      S.getD 20 0 = optionKindMss ∧ S.getD 21 0 = BitVec.ofNat 8 optionLenMss ∧ ntohs S 22 = v) :
    Written (S.take (optionsOffset + optionsLen mssOption) ++ pay) seqNum ackNum flags window
      mssOption pay := by
  have hhl : 20 ≤ optionsOffset + optionsLen mssOption := Nat.le_add_right _ _
  refine ⟨by simp; omega, ?_, ?_, ?_, ?_, ?_, ?_, ?_⟩
  · rw [ntohl_take_append pay (by omega) hlen, hseq]
  · rw [ntohl_take_append pay (by omega) hlen, hack]
  · rw [getD_take_append pay (by omega) hlen, hoff]
  · rw [getD_take_append pay (by omega) hlen, hflags]
  · rw [ntohs_take_append pay (by omega) hlen, hwin]
  · intro v hv
    have h24 : optionsOffset + optionsLen mssOption = 24 := by
      simp [optionsLen, hv, optionsOffset, optionLenMss]
    obtain ⟨h20, h21, h22⟩ := hmss v hv
    rw [h24] at hlen ⊢
    rw [getD_take_append pay (by omega) hlen, getD_take_append pay (by omega) hlen,
      ntohs_take_append pay (by omega) hlen]
    exact ⟨h20, h21, h22⟩
  · rw [List.drop_left' (by simp; omega)]

/-- The payload `write_incomplete_segment` copies from `(payload_buf, max_payload_bytes)`: the
first bytes of `payload_buf`, as many as fit in the rest of the buffer, in what is left of
`mss_remaining` after the options, and in `max_payload_bytes`. -/
def payloadTaken (bufLen : Nat) (mssOption : Option (BitVec 16)) (mssRemaining : BitVec 16) :
    Option (List (BitVec 8) × Nat) → List (BitVec 8)
  | none => []
  | some (payloadBuf, maxPayloadBytes) =>
    payloadBuf.take (min (min (bufLen - (optionsOffset + optionsLen mssOption))
      (mssRemaining.toNat - optionsLen mssOption)) (min payloadBuf.length maxPayloadBytes))

theorem writeIncompleteSegment_written {buf s : List (BitVec 8)} {seqNum ackNum : BitVec 32}
    {flags : BitVec 8} {window : BitVec 16} {mssOption : Option (BitVec 16)}
    {mssRemaining : BitVec 16} {pay : Option (List (BitVec 8) × Nat)}
    (h : writeIncompleteSegment buf seqNum ackNum flags window mssOption mssRemaining pay = .ok s) :
    optionsLen mssOption ≤ mssRemaining.toNat ∧
      Written s seqNum ackNum flags window mssOption
        (payloadTaken buf.length mssOption mssRemaining pay) := by
  unfold writeIncompleteSegment at h
  split at h
  · contradiction
  rename_i hrem
  have hopt : optionsLen mssOption ≤ mssRemaining.toNat := by
    unfold optionsLen
    split
    · rename_i hs
      simp only [hs, true_and, optionLenMss] at hrem
      simp only [optionLenMss]
      omega
    · exact Nat.zero_le _
  refine ⟨hopt, ?_⟩
  dsimp only at h
  rw [show (if mssOption.isSome = true then optionLenMss else 0) = optionsLen mssOption from rfl]
    at h
  split at h
  · contradiction
  rename_i hbuf
  have hbuf' : optionsOffset + optionsLen mssOption ≤ buf.length := by omega
  obtain ⟨hSlen, hseq, hack, hoff, hflags, hwin⟩ := header_fields buf seqNum ackNum flags window
    (optionsOffset + optionsLen mssOption) (by simp only [optionsOffset] at hbuf' ⊢; omega)
  generalize htons (htons (setFlagsAfterNs (setHeaderLenRsvdNs (htonl (htonl buf seqNumberOffset
    seqNum) ackNumberOffset ackNum) (optionsOffset + optionsLen mssOption) false) flags)
    windowSizeOffset window) urgPointerOffset 0 = S at h hSlen hseq hack hoff hflags hwin
  obtain ⟨S', hS'len, hW, hS', hnone⟩ : ∃ S', S'.length = buf.length ∧
      (∀ pay', Written (S'.take (optionsOffset + optionsLen mssOption) ++ pay') seqNum ackNum
        flags window mssOption pay') ∧
      (∀ value, mssOption = some value → htons ((S.set optionsOffset optionKindMss).set
        (optionsOffset + 1) (BitVec.ofNat 8 optionLenMss)) (optionsOffset + 2) value = S') ∧
      (mssOption = none → S = S') := by
    rcases mssOption with _ | value
    · exact ⟨S, hSlen, fun pay' => Written.of_take_append (by omega) hseq hack hoff hflags hwin
        (fun v hv => by cases hv), fun v hv => (by cases hv), fun _ => rfl⟩
    · have h24 : optionsOffset + optionsLen (some value) = 24 := rfl
      obtain ⟨hlen', hseq', hack', hoff', hflags', hwin', h20, h21, h22⟩ :=
        mssOption_fields S value (by omega)
      exact ⟨_, hlen'.trans hSlen, fun pay' => Written.of_take_append (by omega)
        (hseq'.trans hseq) (hack'.trans hack) (hoff'.trans hoff) (hflags'.trans hflags)
        (hwin'.trans hwin) (fun v hv => by cases hv; exact ⟨h20, h21, h22⟩),
        fun v hv => (by cases hv; rfl), fun hv => (by cases hv)⟩
  rcases mssOption with _ | value <;> dsimp only at h <;>
    first
      | rw [hnone rfl] at h
      | simp only [hS' _ rfl] at h
  all_goals
    rcases pay with _ | ⟨payloadBuf, maxPayloadBytes⟩
    · cases h
      simpa [payloadTaken] using hW []
    · dsimp only at h
      split at h
      · contradiction
      cases h
      rw [hS'len]
      exact hW _

theorem payloadTaken_length_le (bufLen : Nat) (mssOption : Option (BitVec 16))
    (mssRemaining : BitVec 16) (pay : Option (List (BitVec 8) × Nat)) :
    (payloadTaken bufLen mssOption mssRemaining pay).length ≤
      mssRemaining.toNat - optionsLen mssOption := by
  cases pay with
  | none => exact Nat.zero_le _
  | some src =>
    simp only [payloadTaken, List.length_take]
    omega

/-! ### `finalize` and reading back -/

section Written

variable {s pay : List (BitVec 8)} {seqNum ackNum : BitVec 32} {flags : BitVec 8}
  {window : BitVec 16} {mssOption : Option (BitVec 16)}

theorem Written.length_ge (hW : Written s seqNum ackNum flags window mssOption pay) :
    optionsOffset + optionsLen mssOption ≤ s.length := by
  rw [hW.length]
  exact Nat.le_add_right _ _

theorem Written.finalize (hW : Written s seqNum ackNum flags window mssOption pay)
    (srcPort dstPort : BitVec 16) (computeChecksum : Option (BitVec 32 × BitVec 32)) :
    Written (Tcp.finalize s srcPort dstPort computeChecksum) seqNum ackNum flags window mssOption
      pay := by
  have hlen := hW.length_ge
  have h20 : 20 ≤ optionsOffset + optionsLen mssOption := Nat.le_add_right _ _
  have hkeep : ∀ (b : List (BitVec 8)) (i : Nat) (v : BitVec 16), i = 0 ∨ i = 2 ∨ i = 16 →
      Written b seqNum ackNum flags window mssOption pay →
      Written (htons b i v) seqNum ackNum flags window mssOption pay := by
    intro b i v hi hb
    refine ⟨by rw [length_htons]; exact hb.length, ?_, ?_, ?_, ?_, ?_, ?_, ?_⟩
    · rw [ntohl_htons_of_disjoint v (by omega)]
      exact hb.seq
    · rw [ntohl_htons_of_disjoint v (by omega)]
      exact hb.ack
    · rw [getD_htons_of_ne v (by omega) (by omega)]
      exact hb.dataOff
    · rw [getD_htons_of_ne v (by omega) (by omega)]
      exact hb.flags
    · rw [ntohs_htons_of_disjoint v (by omega)]
      exact hb.window
    · intro w hw
      rw [getD_htons_of_ne v (by omega) (by omega), getD_htons_of_ne v (by omega) (by omega),
        ntohs_htons_of_disjoint v (by omega)]
      exact hb.mss w hw
    · rw [drop_htons_of_lt v (by omega)]
      exact hb.payload
  unfold Tcp.finalize
  have hports := hkeep _ 2 dstPort (by omega) (hkeep s 0 srcPort (by omega) hW)
  cases computeChecksum with
  | none => exact hports
  | some addrs =>
    exact hkeep _ 16 _ (by omega) (hkeep _ 16 0 (by omega) hports)

theorem Written.headerLen (hW : Written s seqNum ackNum flags window mssOption pay) :
    headerLen s = optionsOffset + optionsLen mssOption := by
  unfold Tcp.headerLen headerLenRsvdNs
  rw [show dataoffRsvdNsOffset = 12 from rfl, hW.dataOff]
  have hol : optionsLen mssOption = 0 ∨ optionsLen mssOption = 4 := by
    unfold optionsLen
    split <;> simp [optionLenMss]
  rcases hol with hol | hol <;> rw [hol] <;> decide

theorem Written.payload_eq (hW : Written s seqNum ackNum flags window mssOption pay) :
    Tcp.payload s = pay := by
  rw [Tcp.payload, payloadUnchecked, hW.headerLen, hW.payload]

theorem Written.parseMssOption (hW : Written s seqNum ackNum flags window mssOption pay)
    (hmss : ∀ v, mssOption = some v → mssMin ≤ v) :
    parseMssOptionUnchecked s (optionsOffset + optionsLen mssOption) 1 = some (.ok mssOption) := by
  have hlen := hW.length_ge
  unfold parseMssOptionUnchecked
  apply Loop.run_succ_of_done
  cases mssOption with
  | none =>
    have hnil : optionsUnchecked s (optionsOffset + optionsLen none) = [] := by
      simp [optionsUnchecked, optionsLen, optionsOffset]
    rw [hnil]
    rfl
  | some v =>
    obtain ⟨h20, h21, h22⟩ := hW.mss v rfl
    have h24 : optionsOffset + optionsLen (some v) = 24 := rfl
    rw [h24] at hlen ⊢
    have hopts : (optionsUnchecked s 24).length = 4 := by
      simp only [optionsUnchecked, optionsOffset, List.length_drop, List.length_take]
      omega
    have hkind : (optionsUnchecked s 24).getD 0 0 = optionKindMss := by
      rw [optionsUnchecked, getD_drop_take (by decide)]
      exact h20
    have hval : ntohs (optionsUnchecked s 24) 2 = v := by
      rw [optionsUnchecked, ntohs_drop_take (by decide)]
      exact h22
    have hge : ¬ v < mssMin := by
      have := hmss v rfl
      rw [BitVec.le_def] at this
      rw [BitVec.lt_def]
      omega
    unfold parseMssOptionStep
    rw [if_pos (by omega)]
    simp only [hkind, hval, hge]
    rfl

theorem Written.fromBytes_ok (hW : Written s seqNum ackNum flags window mssOption pay)
    {srcAddr dstAddr : BitVec 32} (hck : computeChecksum s srcAddr dstAddr .tcp = 0) :
    fromBytes s (some (srcAddr, dstAddr)) = .ok s := by
  have hlen := hW.length_ge
  have hol : optionsLen mssOption ≤ 4 := by
    unfold optionsLen
    split <;> simp [optionLenMss]
  unfold fromBytes
  rw [if_neg (by simp only [optionsOffset] at hlen ⊢; omega)]
  dsimp only
  rw [hW.headerLen, if_neg (by simp only [maxHeaderLen, optionsOffset] at hlen ⊢; omega),
    if_neg (by simp [hck])]

end Written

theorem finalize_ports (s : List (BitVec 8)) (srcPort dstPort : BitVec 16)
    (computeChecksum : Option (BitVec 32 × BitVec 32)) (hlen : 4 ≤ s.length) :
    sourcePort (finalize s srcPort dstPort computeChecksum) = srcPort ∧
      destinationPort (finalize s srcPort dstPort computeChecksum) = dstPort := by
  have hsrc : ntohs (htons (htons s 0 srcPort) 2 dstPort) 0 = srcPort := by
    rw [ntohs_htons_of_disjoint _ (by omega), ntohs_htons _ (by omega)]
  have hdst : ntohs (htons (htons s 0 srcPort) 2 dstPort) 2 = dstPort :=
    ntohs_htons _ (by rw [length_htons]; omega)
  unfold finalize sourcePort destinationPort
  simp only [sourcePortOffset, destinationPortOffset, checksumOffset]
  rcases computeChecksum with _ | ⟨srcAddr, dstAddr⟩
  · exact ⟨hsrc, hdst⟩
  · dsimp only
    constructor
    · rw [ntohs_htons_of_disjoint _ (by omega), ntohs_htons_of_disjoint _ (by omega)]
      exact hsrc
    · rw [ntohs_htons_of_disjoint _ (by omega), ntohs_htons_of_disjoint _ (by omega)]
      exact hdst

theorem computeChecksum_finalize (s : List (BitVec 8)) (srcPort dstPort : BitVec 16)
    (srcAddr dstAddr : BitVec 32) (hlen : 18 ≤ s.length) (hmax : s.length ≤ 65555) :
    computeChecksum (finalize s srcPort dstPort (some (srcAddr, dstAddr))) srcAddr dstAddr .tcp =
      0 := by
  unfold finalize
  simp only [sourcePortOffset, destinationPortOffset, checksumOffset]
  refine computeChecksum_htons_checksum srcAddr dstAddr ?_ ?_ ?_
  · simpa only [length_htons] using hlen
  · simpa only [length_htons] using hmax
  · exact ntohs_htons 0 (by simp only [length_htons]; omega)

/-- **`write_segment` and `from_bytes` are a round trip.** A segment `write_segment` writes with
the checksum addresses given is accepted by `from_bytes` with the same addresses, and its getters
read back the ports, the sequence and acknowledgement numbers, the flags and the window it was
given, a header of 20 bytes plus the MSS option, an MSS option that parses (when it is at least
`MSS_MIN`) to the one given, and the payload bytes it took. -/
theorem writeSegment_fromBytes {buf segment : List (BitVec 8)} {srcPort dstPort : BitVec 16}
    {seqNum ackNum : BitVec 32} {flags : BitVec 8} {window : BitVec 16}
    {mssOption : Option (BitVec 16)} {mssRemaining : BitVec 16}
    {pay : Option (List (BitVec 8) × Nat)} {srcAddr dstAddr : BitVec 32}
    (hmss : ∀ v, mssOption = some v → mssMin ≤ v)
    (h : writeSegment buf srcPort dstPort seqNum ackNum flags window mssOption mssRemaining pay
      (some (srcAddr, dstAddr)) = .ok segment) :
    fromBytes segment (some (srcAddr, dstAddr)) = .ok segment ∧
      sourcePort segment = srcPort ∧ destinationPort segment = dstPort ∧
      sequenceNumber segment = seqNum ∧ ackNumber segment = ackNum ∧
      flagsAfterNs segment = flags ∧ windowSize segment = window ∧
      headerLen segment = optionsOffset + optionsLen mssOption ∧
      parseMssOptionUnchecked segment (headerLen segment) 1 = some (.ok mssOption) ∧
      Tcp.payload segment = payloadTaken buf.length mssOption mssRemaining pay := by
  obtain ⟨s, hs, rfl⟩ : ∃ s, writeIncompleteSegment buf seqNum ackNum flags window mssOption
      mssRemaining pay = .ok s ∧ finalize s srcPort dstPort (some (srcAddr, dstAddr)) = segment := by
    unfold writeSegment at h
    cases hw : writeIncompleteSegment buf seqNum ackNum flags window mssOption mssRemaining pay with
    | error e =>
      rw [hw] at h
      cases h
    | ok s =>
      rw [hw] at h
      cases h
      exact ⟨s, rfl, rfl⟩
  obtain ⟨hopt, hW⟩ := writeIncompleteSegment_written hs
  have hW' := hW.finalize srcPort dstPort (some (srcAddr, dstAddr))
  have hlen := hW.length_ge
  have hmax : s.length ≤ 65555 := by
    have hpay := payloadTaken_length_le buf.length mssOption mssRemaining pay
    have hrem := mssRemaining.isLt
    rw [hW.length]
    simp only [optionsOffset] at hlen ⊢
    omega
  have hports := finalize_ports s srcPort dstPort (some (srcAddr, dstAddr))
    (by simp only [optionsOffset] at hlen; omega)
  refine ⟨hW'.fromBytes_ok ?_, hports.1, hports.2, hW'.seq, hW'.ack, hW'.flags, hW'.window,
    hW'.headerLen, ?_, hW'.payload_eq⟩
  · exact computeChecksum_finalize s srcPort dstPort srcAddr dstAddr
      (by simp only [optionsOffset] at hlen; omega) hmax
  · rw [hW'.headerLen]
    exact hW'.parseMssOption hmss

/-- An acknowledgement with the MSS option and three payload bytes, into a 40-byte buffer. -/
theorem writeSegment_fromBytes_synAck :
    ∃ segment, writeSegment (List.replicate 40 0) 7 80 100 200 TcpFlags.ack 2500 (some 1460) 1460
        (some ([1, 2, 3], 3)) (some (1, 2)) = .ok segment ∧
      (fromBytes segment (some (1, 2)) = .ok segment ∧
        sourcePort segment = 7 ∧ destinationPort segment = 80 ∧
        sequenceNumber segment = 100 ∧ ackNumber segment = 200 ∧
        flagsAfterNs segment = TcpFlags.ack ∧ windowSize segment = 2500 ∧
        headerLen segment = optionsOffset + optionsLen (some 1460) ∧
        parseMssOptionUnchecked segment (headerLen segment) 1 = some (.ok (some 1460)) ∧
        Tcp.payload segment = payloadTaken 40 (some 1460) 1460 (some ([1, 2, 3], 3))) :=
  by
    have h : writeSegment (List.replicate 40 0) 7 80 100 200 TcpFlags.ack 2500 (some 1460) 1460
        (some ([1, 2, 3], 3)) (some (1, 2)) = .ok _ := rfl
    refine ⟨_, h, writeSegment_fromBytes ?_ h⟩
    rintro v ⟨⟩
    decide

end Tcp

end Pdu
end Dumbo
end Firecracker
