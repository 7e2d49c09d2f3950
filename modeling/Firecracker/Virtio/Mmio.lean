import Firecracker.Virtio.Queue
import Firecracker.Lib.Run

/-!
# Firecracker.Virtio.Mmio

`devices/src/virtio/mmio.rs`: the MMIO transport of a virtio device, as the state machine the
guest drives with reads and writes of its registers.

The device behind the transport is `Device`: the queues and the activation state, which the
transport reads and changes directly, and a device-specific state `σ` with the trait's other
methods (`VirtioDevice`). What `activate` may do to the queues is part of the type: it can only
turn on notification suppression (the block and net devices do so when `VIRTIO_RING_F_EVENT_IDX`
was negotiated), and it sets the device active. `reset` is the trait's default, which no device
of the repository overrides: it returns `None`.

A read never changes the transport's state (`step` on a read is the identity); `read` gives the
bytes the guest sees. A write is `write`; a failed `expect` (activation that fails) is `none`.
-/

namespace Firecracker
namespace Virtio

open GuestMemoryMmap

/-! ## Device status -/

namespace DeviceStatus

def init : BitVec 32 := 0
def acknowledge : BitVec 32 := 1
def driver : BitVec 32 := 2
def failed : BitVec 32 := 128
def featuresOk : BitVec 32 := 8
def driverOk : BitVec 32 := 4

end DeviceStatus

def vendorId : BitVec 32 := 0
def mmioMagicValue : BitVec 32 := 0x7472_6976
def mmioVersion : BitVec 32 := 2

/-! ## Devices -/

inductive ActivateError where
  | badActivate
  deriving DecidableEq, Repr

/-- The device-specific part of a `VirtioDevice`. `activate` returns the new state and whether
every queue gets notification suppression. -/
structure VirtioDevice (σ : Type) where
  deviceType : σ → BitVec 32
  availFeatures : σ → BitVec 64
  ackedFeatures : σ → BitVec 64
  setAckedFeatures : σ → BitVec 64 → σ
  readConfig : σ → BitVec 64 → List (BitVec 8) → List (BitVec 8)
  writeConfig : σ → BitVec 64 → List (BitVec 8) → σ
  activate : GuestMemoryMmap → σ → Except ActivateError (σ × Bool)

/-- A device: its own state, its queues, whether it is active, and the interrupt status it
shares with the transport. -/
structure Device (σ : Type) where
  inner : σ
  queues : List Queue
  activated : Bool
  interruptStatus : BitVec 64

namespace VirtioDevice

variable {σ : Type} (ops : VirtioDevice σ)

def availFeaturesByPage (s : σ) (page : BitVec 32) : BitVec 32 :=
  match page.toNat with
  | 0 => (ops.availFeatures s).setWidth 32
  | 1 => (ops.availFeatures s >>> 32).setWidth 32
  | _ => 0

/-- `ack_features_by_page`, the trait's default: features the device does not offer are
dropped. -/
def ackFeaturesByPage (s : σ) (page value : BitVec 32) : σ :=
  let v : BitVec 64 :=
    match page.toNat with
    | 0 => value.setWidth 64
    | 1 => value.setWidth 64 <<< 32
    | _ => 0
  let unrequestedFeatures := v &&& ~~~ops.availFeatures s
  let v := if unrequestedFeatures ≠ 0 then v &&& ~~~unrequestedFeatures else v
  ops.setAckedFeatures s (ops.ackedFeatures s ||| v)

end VirtioDevice

namespace Device

variable {σ : Type}

def activate (ops : VirtioDevice σ) (mem : GuestMemoryMmap) (d : Device σ) :
    Except ActivateError (Device σ) :=
  match ops.activate mem d.inner with
  | .ok (inner, eventIdx) =>
    .ok { d with
      inner
      queues := if eventIdx then d.queues.map Queue.enableNotifSuppression else d.queues
      activated := true }
  | .error e => .error e

def reset (_d : Device σ) : Option Unit := none

end Device

/-! ## The transport -/

structure MmioTransport (σ : Type) where
  device : Device σ
  featuresSelect : BitVec 32
  ackedFeaturesSelect : BitVec 32
  queueSelect : BitVec 32
  deviceStatus : BitVec 32
  configGeneration : BitVec 32
  mem : GuestMemoryMmap

namespace MmioTransport

variable {σ : Type} (ops : VirtioDevice σ)

def new (mem : GuestMemoryMmap) (device : Device σ) : MmioTransport σ :=
  { device, featuresSelect := 0, ackedFeaturesSelect := 0, queueSelect := 0
    deviceStatus := DeviceStatus.init, configGeneration := 0, mem }

def checkDeviceStatus (s : MmioTransport σ) (set clr : BitVec 32) : Bool :=
  s.deviceStatus &&& (set ||| clr) == set

/-- `queues().iter().all(|q| q.is_valid(mem))`: stops at the first invalid queue. -/
def allQueuesValid (mem : GuestMemoryMmap) : List Queue → Option Bool
  | [] => some true
  | q :: qs =>
    match q.isValid mem with
    | none => none
    | some false => some false
    | some true => allQueuesValid mem qs

def areQueuesValid (s : MmioTransport σ) : Option Bool := allQueuesValid s.mem s.device.queues

def withQueue {U : Type} (s : MmioTransport σ) (d : U) (f : Queue → U) : U :=
  match s.device.queues[s.queueSelect.toNat]? with
  | some q => f q
  | none => d

/-- `with_queue_mut`: changes the selected queue, if there is one. -/
def withQueueMut (s : MmioTransport σ) (f : Queue → Queue) : MmioTransport σ :=
  { s with device.queues := s.device.queues.modify s.queueSelect.toNat f }

/-- `update_queue_field`: only between `FEATURES_OK` and `DRIVER_OK`, and not after `FAILED`. -/
def updateQueueField (s : MmioTransport σ) (f : Queue → Queue) : MmioTransport σ :=
  if s.checkDeviceStatus DeviceStatus.featuresOk (DeviceStatus.driverOk ||| DeviceStatus.failed)
  then s.withQueueMut f
  else s

/-- `reset`: the registers and every queue back to their initial values. -/
def reset (s : MmioTransport σ) : MmioTransport σ :=
  { s with
    featuresSelect := 0
    ackedFeaturesSelect := 0
    queueSelect := 0
    deviceStatus := DeviceStatus.init
    device.interruptStatus := 0
    device.queues := s.device.queues.map fun q => Queue.new q.getMaxSize }

open DeviceStatus in
/-- `set_device_status`. The guards compare the bits the write sets with one initialisation
step, and the whole status with the one before it; the write is then stored as it is, so it may
also clear bits. -/
def setDeviceStatus (s : MmioTransport σ) (status : BitVec 32) : Option (MmioTransport σ) :=
  let changed := ~~~s.deviceStatus &&& status
  if changed = acknowledge ∧ s.deviceStatus = init then some { s with deviceStatus := status }
  else if changed = driver ∧ s.deviceStatus = acknowledge then
    some { s with deviceStatus := status }
  else if changed = featuresOk ∧ s.deviceStatus = acknowledge ||| driver then
    some { s with deviceStatus := status }
  else if changed = driverOk ∧ s.deviceStatus = acknowledge ||| driver ||| featuresOk then
    let s := { s with deviceStatus := status }
    if s.device.activated then some s
    else
      match s.areQueuesValid with
      | none => none
      | some false => some s
      | some true =>
        match s.device.activate ops s.mem with
        | .ok device => some { s with device }
        | .error _ => none
  else if status &&& failed ≠ 0 then some { s with deviceStatus := s.deviceStatus ||| failed }
  else if status = 0 then
    let s :=
      if s.device.activated then
        match s.device.reset with
        | some _ => s
        | none => { s with deviceStatus := s.deviceStatus ||| failed }
      else s
    some (if s.deviceStatus &&& failed = 0 then s.reset else s)
  else some s

def setHi (v : BitVec 64) (x : BitVec 32) : BitVec 64 := (v &&& 0xffff_ffff) ||| (x.setWidth 64 <<< 32)

def setLo (v : BitVec 64) (x : BitVec 32) : BitVec 64 := (v &&& ~~~0xffff_ffff) ||| x.setWidth 64

open DeviceStatus in
def write (s : MmioTransport σ) (offset : BitVec 64) (data : List (BitVec 8)) :
    Option (MmioTransport σ) :=
  if offset ≤ 0xff ∧ data.length = 4 then
    let v := u32OfLe data
    match offset.toNat with
    | 0x14 => some { s with featuresSelect := v }
    | 0x20 =>
      if s.checkDeviceStatus driver (featuresOk ||| failed) then
        some { s with device.inner := ops.ackFeaturesByPage s.device.inner s.ackedFeaturesSelect v }
      else some s
    | 0x24 => some { s with ackedFeaturesSelect := v }
    | 0x30 => some { s with queueSelect := v }
    | 0x38 => some (s.updateQueueField fun q => { q with size := v.setWidth 16 })
    | 0x44 => some (s.updateQueueField fun q => { q with ready := v == 1 })
    | 0x64 =>
      if s.checkDeviceStatus driverOk 0 then
        some { s with device.interruptStatus := s.device.interruptStatus &&& ~~~v.setWidth 64 }
      else some s
    | 0x70 => s.setDeviceStatus ops v
    | 0x80 => some (s.updateQueueField fun q => { q with descTable := setLo q.descTable v })
    | 0x84 => some (s.updateQueueField fun q => { q with descTable := setHi q.descTable v })
    | 0x90 => some (s.updateQueueField fun q => { q with availRing := setLo q.availRing v })
    | 0x94 => some (s.updateQueueField fun q => { q with availRing := setHi q.availRing v })
    | 0xa0 => some (s.updateQueueField fun q => { q with usedRing := setLo q.usedRing v })
    | 0xa4 => some (s.updateQueueField fun q => { q with usedRing := setHi q.usedRing v })
    | _ => some s
  else if 0x100 ≤ offset ∧ offset ≤ 0xfff then
    if s.checkDeviceStatus driver failed then
      some { s with device.inner := ops.writeConfig s.device.inner (offset - 0x100) data }
    else some s
  else some s

/-- `BusDevice::read` at `offset` into the buffer `data`: the buffer afterwards. -/
def read (s : MmioTransport σ) (offset : BitVec 64) (data : List (BitVec 8)) :
    List (BitVec 8) :=
  if offset ≤ 0xff ∧ data.length = 4 then
    let v : Option (BitVec 32) :=
      match offset.toNat with
      | 0x0 => some mmioMagicValue
      | 0x04 => some mmioVersion
      | 0x08 => some (ops.deviceType s.device.inner)
      | 0x0c => some vendorId
      | 0x10 =>
        let features := ops.availFeaturesByPage s.device.inner s.featuresSelect
        some (if s.featuresSelect = 1 then features ||| 0x1 else features)
      | 0x34 => some (s.withQueue 0 fun q => q.getMaxSize.setWidth 32)
      | 0x44 => some (s.withQueue 0 fun q => if q.ready then 1 else 0)
      | 0x60 => some (s.device.interruptStatus.setWidth 32)
      | 0x70 => some s.deviceStatus
      | 0xfc => some s.configGeneration
      | _ => none
    match v with
    | some v => leOfU32 v
    | none => data
  else if 0x100 ≤ offset ∧ offset ≤ 0xfff then
    ops.readConfig s.device.inner (offset - 0x100) data
  else data

/-! The parts of the state each helper leaves alone. -/

section Frame

variable {s : MmioTransport σ} {f : Queue → Queue}

@[simp] theorem withQueueMut_activated : (s.withQueueMut f).device.activated = s.device.activated :=
  rfl

@[simp] theorem withQueueMut_mem : (s.withQueueMut f).mem = s.mem := rfl

@[simp] theorem withQueueMut_deviceStatus : (s.withQueueMut f).deviceStatus = s.deviceStatus :=
  rfl

@[simp] theorem updateQueueField_activated :
    (s.updateQueueField f).device.activated = s.device.activated := by
  unfold updateQueueField
  split <;> rfl

@[simp] theorem updateQueueField_mem : (s.updateQueueField f).mem = s.mem := by
  unfold updateQueueField
  split <;> rfl

@[simp] theorem updateQueueField_deviceStatus :
    (s.updateQueueField f).deviceStatus = s.deviceStatus := by
  unfold updateQueueField
  split <;> rfl

@[simp] theorem reset_activated : s.reset.device.activated = s.device.activated := rfl

@[simp] theorem reset_mem : s.reset.mem = s.mem := rfl

end Frame

end MmioTransport

inductive MmioOp where
  | read (offset : BitVec 64) (data : List (BitVec 8))
  | write (offset : BitVec 64) (data : List (BitVec 8))

def step {σ : Type} (ops : VirtioDevice σ) (s : MmioTransport σ) : MmioOp → Option (MmioTransport σ)
  | .read _ _ => some s
  | .write offset data => s.write ops offset data

end Virtio
end Firecracker
