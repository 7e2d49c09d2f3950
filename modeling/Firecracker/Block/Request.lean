import Firecracker.Virtio.Queue

/-!
# Firecracker.Block.Request

`devices/src/virtio/block/request.rs`: how the block device reads a request from a descriptor
chain. `Request::parse` reads the request header from the head, takes the data descriptor (which
only a `Flush` may leave out) and the status descriptor from the chain, checks the direction of
the data descriptor, the data length and the sectors, and the status descriptor.

`parse_ok_iff` states the conditions it checks as one conjunction (`Accepts`), independent of the
order of the checks and of the early returns; `parse_offset_le` says what the sector check buys
for the byte range `Request::offset` gives to the file engine.
-/

namespace Firecracker
namespace Block

open Virtio GuestMemoryMmap

/-! ## Requests -/

def sectorShift : Nat := 9
def sectorSize : BitVec 64 := 512

def virtioBlkIdBytes : BitVec 32 := 20
def virtioBlkTIn : BitVec 32 := 0
def virtioBlkTOut : BitVec 32 := 1
def virtioBlkTFlush : BitVec 32 := 4
def virtioBlkTGetId : BitVec 32 := 8

inductive Error where
  | descriptorChainTooShort
  | descriptorLengthTooSmall
  | guestMemory
  | invalidDataLength
  | invalidOffset
  | unexpectedReadOnlyDescriptor
  | unexpectedWriteOnlyDescriptor
  deriving DecidableEq, Repr

inductive RequestType where
  | «in»
  | out
  | flush
  | getDeviceId
  | unsupported (t : BitVec 32)
  deriving DecidableEq, Repr

def RequestType.fromU32 (value : BitVec 32) : RequestType :=
  if value = virtioBlkTIn then .in
  else if value = virtioBlkTOut then .out
  else if value = virtioBlkTFlush then .flush
  else if value = virtioBlkTGetId then .getDeviceId
  else .unsupported value

/-- `RequestHeader`: the type, a reserved word, and the sector, 16 bytes in little endian. -/
structure RequestHeader where
  requestType : BitVec 32
  sector : BitVec 64
  deriving DecidableEq, Repr

/-- `RequestHeader::read_from`: `read_obj` of the 16-byte header. -/
def RequestHeader.readFrom (mem : GuestMemoryMmap) (addr : BitVec 64) : Option RequestHeader :=
  (mem.readObj addr 16).map fun b => ⟨u32OfLe b, u64OfLe (b.drop 8)⟩

structure Request where
  type : RequestType
  dataLen : BitVec 32
  statusAddr : BitVec 64
  sector : BitVec 64
  dataAddr : BitVec 64
  deriving DecidableEq, Repr

namespace Request

/-- The descriptors after the head: the data descriptor, which only a `Flush` may leave out, and
the status descriptor, with the direction checks on the data descriptor. -/
def dataAndStatus (mem : GuestMemoryMmap) (type : RequestType) (availDesc : DescriptorChain) :
    Except Error (Option DescriptorChain × DescriptorChain) :=
  match availDesc.nextDescriptor mem with
  | none => .error .descriptorChainTooShort
  | some desc =>
    if !desc.hasNext then
      if type ≠ .flush then .error .descriptorChainTooShort else .ok (none, desc)
    else
      match desc.nextDescriptor mem with
      | none => .error .descriptorChainTooShort
      | some statusDesc =>
        if desc.isWriteOnly ∧ type = .out then .error .unexpectedWriteOnlyDescriptor
        else if !desc.isWriteOnly ∧ type = .in then .error .unexpectedReadOnlyDescriptor
        else if !desc.isWriteOnly ∧ type = .getDeviceId then .error .unexpectedReadOnlyDescriptor
        else .ok (some desc, statusDesc)

/-- The request validity checks: whole sectors inside the disk for `In` and `Out`, room for the ID
for `GetDeviceID`. -/
def checkValidity (type : RequestType) (sector : BitVec 64) (dataLen : BitVec 32)
    (numDiskSectors : BitVec 64) : Except Error Unit :=
  match type with
  | .in | .out =>
    if dataLen.setWidth 64 % sectorSize ≠ 0 then .error .invalidDataLength
    else
      match checkedAdd sector (dataLen.setWidth 64 >>> sectorShift) with
      | none => .error .invalidOffset
      | some topSector => if topSector > numDiskSectors then .error .invalidOffset else .ok ()
  | .getDeviceId => if dataLen < virtioBlkIdBytes then .error .invalidDataLength else .ok ()
  | _ => .ok ()

def parse (availDesc : DescriptorChain) (mem : GuestMemoryMmap) (numDiskSectors : BitVec 64) :
    Except Error Request :=
  if availDesc.isWriteOnly then .error .unexpectedWriteOnlyDescriptor
  else
    match RequestHeader.readFrom mem availDesc.addr with
    | none => .error .guestMemory
    | some header =>
      let type := RequestType.fromU32 header.requestType
      match dataAndStatus mem type availDesc with
      | .error e => .error e
      | .ok (dataDesc, statusDesc) =>
        let dataLen := (dataDesc.map (·.len)).getD 0
        match checkValidity type header.sector dataLen numDiskSectors with
        | .error e => .error e
        | .ok () =>
          if !statusDesc.isWriteOnly then .error .unexpectedReadOnlyDescriptor
          else if statusDesc.len < 1 then .error .descriptorLengthTooSmall
          else
            .ok { type, dataLen, statusAddr := statusDesc.addr, sector := header.sector
                  dataAddr := (dataDesc.map (·.addr)).getD 0 }

/-- `Request::offset`: the byte offset of the first sector, `sector << SECTOR_SHIFT` on `u64`. -/
def offset (r : Request) : BitVec 64 := r.sector <<< sectorShift

end Request

/-! ## What `parse` accepts -/

/-- The data descriptor goes the way the request needs: written by the device for `In` and
`GetDeviceID`, read by it for `Out`. -/
def DirectionOk (type : RequestType) (desc : DescriptorChain) : Prop :=
  (type = .out → desc.isWriteOnly = false) ∧ (type = .in → desc.isWriteOnly = true) ∧
    (type = .getDeviceId → desc.isWriteOnly = true)

/-- The data length fits the request: whole sectors ending inside the disk for `In` and `Out`, in
unbounded arithmetic, and room for the ID for `GetDeviceID`. -/
def LengthOk (type : RequestType) (sector : BitVec 64) (dataLen : BitVec 32)
    (numDiskSectors : BitVec 64) : Prop :=
  match type with
  | .in | .out => dataLen.toNat % 512 = 0 ∧ sector.toNat + dataLen.toNat / 512 ≤ numDiskSectors.toNat
  | .getDeviceId => 20 ≤ dataLen.toNat
  | _ => True

/-- The shape of the chain after the head: a status descriptor, and a data descriptor before it
unless the request is a `Flush` that leaves it out. -/
def ChainShape (mem : GuestMemoryMmap) (type : RequestType) (availDesc : DescriptorChain)
    (dataDesc : Option DescriptorChain) (statusDesc : DescriptorChain) : Prop :=
  ∃ desc, availDesc.nextDescriptor mem = some desc ∧
    if desc.hasNext then
      dataDesc = some desc ∧ desc.nextDescriptor mem = some statusDesc ∧ DirectionOk type desc
    else type = .flush ∧ dataDesc = none ∧ statusDesc = desc

/-- The conditions `parse` checks: a readable head whose header can be read, the chain's shape,
the data length, and a writable status descriptor with room for the status byte. -/
def Accepts (availDesc : DescriptorChain) (mem : GuestMemoryMmap) (numDiskSectors : BitVec 64) :
    Prop :=
  availDesc.isWriteOnly = false ∧
    ∃ header dataDesc statusDesc, RequestHeader.readFrom mem availDesc.addr = some header ∧
      ChainShape mem (RequestType.fromU32 header.requestType) availDesc dataDesc statusDesc ∧
      LengthOk (RequestType.fromU32 header.requestType) header.sector
        ((dataDesc.map (·.len)).getD 0) numDiskSectors ∧
      statusDesc.isWriteOnly = true ∧ 1 ≤ statusDesc.len.toNat

namespace Request

variable {mem : GuestMemoryMmap} {availDesc : DescriptorChain} {numDiskSectors : BitVec 64}

theorem dataAndStatus_ok_iff {type : RequestType} {dataDesc : Option DescriptorChain}
    {statusDesc : DescriptorChain} :
    dataAndStatus mem type availDesc = .ok (dataDesc, statusDesc) ↔
      ChainShape mem type availDesc dataDesc statusDesc := by
  unfold dataAndStatus ChainShape
  cases hn : availDesc.nextDescriptor mem with
  | none => simp
  | some desc =>
    simp only [Option.some.injEq, exists_eq_left']
    cases hh : desc.hasNext
    · simp only [Bool.not_false, if_true, Bool.false_eq_true, if_false]
      constructor
      · intro h
        by_cases hf : type = .flush
        · rw [if_neg (not_not.2 hf)] at h
          cases h
          exact ⟨hf, rfl, rfl⟩
        · rw [if_pos hf] at h
          cases h
      · rintro ⟨hf, rfl, rfl⟩
        rw [if_neg (not_not.2 hf)]
    · cases hs : desc.nextDescriptor mem with
      | none => simp
      | some status =>
        simp only [Bool.not_true, Bool.false_eq_true, if_false, if_true, Option.some.injEq]
        constructor
        · intro h
          cases hw : desc.isWriteOnly <;> cases type <;> simp [hw] at h <;>
            (obtain ⟨rfl, rfl⟩ := h; simp [DirectionOk, hw])
        · rintro ⟨rfl, rfl, hout, hin, hid⟩
          cases hw : desc.isWriteOnly <;> cases type <;> simp_all

theorem checkValidity_ok_iff {type : RequestType} {sector : BitVec 64} {dataLen : BitVec 32} :
    checkValidity type sector dataLen numDiskSectors = .ok () ↔
      LengthOk type sector dataLen numDiskSectors := by
  have hlen : (dataLen.setWidth 64 % sectorSize).toNat = dataLen.toNat % 512 := by
    simp [sectorSize]
  have hsec : (dataLen.setWidth 64 >>> sectorShift).toNat = dataLen.toNat / 512 := by
    have := dataLen.isLt
    simp only [sectorShift, BitVec.toNat_ushiftRight, BitVec.toNat_setWidth,
      Nat.shiftRight_eq_div_pow]
    rw [Nat.mod_eq_of_lt (by omega)]
  have hio : checkValidity .in sector dataLen numDiskSectors =
      checkValidity .out sector dataLen numDiskSectors ∧
      (checkValidity .out sector dataLen numDiskSectors = .ok () ↔
        dataLen.toNat % 512 = 0 ∧ sector.toNat + dataLen.toNat / 512 ≤ numDiskSectors.toNat) := by
    refine ⟨rfl, ?_⟩
    unfold checkValidity checkedAdd
    by_cases hm : dataLen.toNat % 512 = 0
    · have hz : ¬ dataLen.setWidth 64 % sectorSize ≠ 0 :=
        not_not.2 (BitVec.eq_of_toNat_eq (by rw [hlen, hm]; rfl))
      rw [if_neg hz]
      by_cases ho : sector.toNat + (dataLen.setWidth 64 >>> sectorShift).toNat < 2 ^ 64
      · rw [if_pos ho]
        dsimp only
        have htop : (sector + dataLen.setWidth 64 >>> sectorShift).toNat =
            sector.toNat + dataLen.toNat / 512 := by
          rw [BitVec.toNat_add, Nat.mod_eq_of_lt ho, hsec]
        by_cases hgt : sector + dataLen.setWidth 64 >>> sectorShift > numDiskSectors
        · rw [if_pos hgt]
          rw [GT.gt, BitVec.lt_def, htop] at hgt
          simp only [reduceCtorEq, false_iff, not_and, not_le]
          exact fun _ => hgt
        · rw [if_neg hgt]
          rw [GT.gt, BitVec.lt_def, htop] at hgt
          simp only [hm, true_and, true_iff]
          omega
      · rw [if_neg ho]
        have := numDiskSectors.isLt
        rw [hsec] at ho
        simp only [reduceCtorEq, false_iff, not_and, not_le]
        intro _
        omega
    · have hz : dataLen.setWidth 64 % sectorSize ≠ 0 := by
        intro h0
        have := congrArg BitVec.toNat h0
        rw [hlen] at this
        exact hm this
      rw [if_pos hz]
      simp [hm]
  cases type with
  | «in» => rw [hio.1, hio.2]; rfl
  | out => rw [hio.2]; rfl
  | flush => simp [checkValidity, LengthOk]
  | getDeviceId =>
    have h20 : virtioBlkIdBytes.toNat = 20 := rfl
    simp only [checkValidity, LengthOk, BitVec.lt_def, h20]
    by_cases hl : dataLen.toNat < 20
    · simp only [if_pos hl, reduceCtorEq, false_iff]
      omega
    · simp only [if_neg hl, true_iff]
      omega
  | unsupported t => simp [checkValidity, LengthOk]

theorem statusChecks_eq_ok {statusDesc : DescriptorChain} {r req : Request} :
    (if !statusDesc.isWriteOnly then (.error .unexpectedReadOnlyDescriptor : Except Error Request)
      else if statusDesc.len < 1 then .error .descriptorLengthTooSmall else .ok r) = .ok req ↔
      statusDesc.isWriteOnly = true ∧ 1 ≤ statusDesc.len.toNat ∧ req = r := by
  cases hsw : statusDesc.isWriteOnly
  · simp
  · simp only [Bool.not_true, Bool.false_eq_true, if_false, true_and]
    have hone : (1 : BitVec 32).toNat = 1 := rfl
    by_cases hl : statusDesc.len < 1
    · rw [if_pos hl]
      rw [BitVec.lt_def, hone] at hl
      simp only [reduceCtorEq, false_iff, not_and]
      intro h
      omega
    · rw [if_neg hl, Except.ok.injEq]
      rw [BitVec.lt_def, hone] at hl
      constructor
      · rintro rfl
        exact ⟨by omega, rfl⟩
      · rintro ⟨-, rfl⟩
        rfl

theorem parse_eq_ok_iff {req : Request} :
    parse availDesc mem numDiskSectors = .ok req ↔
      availDesc.isWriteOnly = false ∧ ∃ header dataDesc statusDesc,
        RequestHeader.readFrom mem availDesc.addr = some header ∧
        dataAndStatus mem (RequestType.fromU32 header.requestType) availDesc =
          .ok (dataDesc, statusDesc) ∧
        checkValidity (RequestType.fromU32 header.requestType) header.sector
          ((dataDesc.map (·.len)).getD 0) numDiskSectors = .ok () ∧
        statusDesc.isWriteOnly = true ∧ 1 ≤ statusDesc.len.toNat ∧
        req = { type := RequestType.fromU32 header.requestType
                dataLen := (dataDesc.map (·.len)).getD 0, statusAddr := statusDesc.addr
                sector := header.sector, dataAddr := (dataDesc.map (·.addr)).getD 0 } := by
  unfold parse
  cases hw : availDesc.isWriteOnly
  · simp only [Bool.false_eq_true, if_false, true_and]
    cases hh : RequestHeader.readFrom mem availDesc.addr with
    | none => simp
    | some header =>
      dsimp only
      cases hd : dataAndStatus mem (RequestType.fromU32 header.requestType) availDesc with
      | error e => simp [hd]
      | ok descs =>
        obtain ⟨dataDesc, statusDesc⟩ := descs
        dsimp only
        cases hv : checkValidity (RequestType.fromU32 header.requestType) header.sector
            ((dataDesc.map (·.len)).getD 0) numDiskSectors with
        | error e =>
          simp only [BitVec.ofNat_eq_ofNat] at hv
          simp [hd, hv]
        | ok u =>
          rw [statusChecks_eq_ok]
          simp only [BitVec.ofNat_eq_ofNat] at hv
          simp [hd, hv]
  · simp

/-- **What `parse` accepts.** `Request::parse` returns a request exactly when the head is readable
and its header can be read, the chain has a status descriptor and, unless the request is a
`Flush`, a data descriptor before it going the right way, the data length fits the request, and the
status descriptor is writable with room for the status byte. -/
theorem parse_ok_iff :
    (∃ req, parse availDesc mem numDiskSectors = .ok req) ↔ Accepts availDesc mem numDiskSectors := by
  simp only [parse_eq_ok_iff, dataAndStatus_ok_iff, checkValidity_ok_iff, Accepts]
  constructor
  · rintro ⟨req, hw, header, dataDesc, statusDesc, hh, hshape, hlen, hsw, hsl, -⟩
    exact ⟨hw, header, dataDesc, statusDesc, hh, hshape, hlen, hsw, hsl⟩
  · rintro ⟨hw, header, dataDesc, statusDesc, hh, hshape, hlen, hsw, hsl⟩
    exact ⟨_, hw, header, dataDesc, statusDesc, hh, hshape, hlen, hsw, hsl, rfl⟩

/-- **The byte range of a transfer lies inside the disk.** With the disk's sector count
`disk_size >> SECTOR_SHIFT`, as `DiskProperties` computes it, an `In` or `Out` request that `parse`
returns has `offset() = sector * 512` without overflow, and its `data_len` bytes from there end
inside the disk. -/
theorem parse_offset_le {diskSize : BitVec 64} {req : Request}
    (h : parse availDesc mem (diskSize >>> sectorShift) = .ok req)
    (htype : req.type = .in ∨ req.type = .out) :
    req.offset.toNat = req.sector.toNat * 512 ∧
      req.offset.toNat + req.dataLen.toNat ≤ diskSize.toNat := by
  obtain ⟨-, header, dataDesc, statusDesc, -, -, hv, -, -, hreq⟩ := parse_eq_ok_iff.1 h
  rw [checkValidity_ok_iff] at hv
  have hsectors : (diskSize >>> sectorShift).toNat = diskSize.toNat / 512 := by
    simp [sectorShift, Nat.shiftRight_eq_div_pow]
  have hlen : req.dataLen.toNat % 512 = 0 ∧
      req.sector.toNat + req.dataLen.toNat / 512 ≤ diskSize.toNat / 512 := by
    subst hreq
    rcases htype with ht | ht <;> (dsimp only at ht; rw [ht] at hv; rw [← hsectors]; exact hv)
  have hdisk := diskSize.isLt
  have hoff : req.offset.toNat = req.sector.toNat * 512 := by
    simp only [offset, sectorShift, BitVec.toNat_shiftLeft, Nat.shiftLeft_eq]
    apply Nat.mod_eq_of_lt
    omega
  refine ⟨hoff, ?_⟩
  rw [hoff]
  omega

/-- **Block request validation.** For every head of a descriptor chain and guest memory:
`Request::parse` succeeds, for any number of disk sectors, exactly when the conditions of
`Accepts` hold; and with the disk's sector count `disk_size >> SECTOR_SHIFT`, every `In` or `Out`
request it returns has `offset() = sector * 512` with no `u64` overflow and a byte range
`[offset, offset + data_len)` inside the disk. -/
theorem parse_validation (availDesc : DescriptorChain) (mem : GuestMemoryMmap) :
    (∀ numDiskSectors : BitVec 64,
      (∃ req, parse availDesc mem numDiskSectors = .ok req) ↔ Accepts availDesc mem numDiskSectors) ∧
    ∀ (diskSize : BitVec 64) (req : Request),
      parse availDesc mem (diskSize >>> sectorShift) = .ok req → (req.type = .in ∨ req.type = .out) →
      req.offset.toNat = req.sector.toNat * 512 ∧
        req.offset.toNat + req.dataLen.toNat ≤ diskSize.toNat :=
  ⟨fun _ => parse_ok_iff, fun _ _ h htype => parse_offset_le h htype⟩

end Request

end Block
end Firecracker
