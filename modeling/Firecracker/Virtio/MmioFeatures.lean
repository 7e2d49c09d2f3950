import Firecracker.Virtio.MmioFreeze

/-!
# Firecracker.Virtio.MmioFeatures

The acknowledged features after `FEATURES_OK`. The register of acknowledged features (`0x20`)
takes a write only when `check_device_status(DRIVER, FEATURES_OK | FAILED)` holds of the status
word, so while the status has `FEATURES_OK` set the acknowledged features change only through the
device's own `write_config` and `activate` (`write_ackedFeatures_of_featuresOk`), and no device of
the repository changes them there.

The status word does not keep `FEATURES_OK`, though. `set_device_status` matches the bits a write
sets against one initialisation step and then stores the written value as it is. `FEATURES_OK`
leaves the status only by a reset to `INIT` or by the `DRIVER_OK` step with a value that lacks it
(`setDeviceStatus_featuresOk`); the second is open to the guest: from
`ACKNOWLEDGE | DRIVER | FEATURES_OK`, a write of `ACKNOWLEDGE | DRIVER | DRIVER_OK` activates the
device and clears `FEATURES_OK`, after which the guest may acknowledge features again
(`write_driverOk_clears_featuresOk`, `ackedFeatures_afterFeaturesOk_counterexample`).
-/

namespace Firecracker
namespace Virtio

open GuestMemoryMmap

/-- A device whose own `write_config` and `activate` leave its acknowledged features alone: only
the transport's `ack_features_by_page` changes them. -/
structure VirtioDevice.KeepsAckedFeatures {σ : Type} (ops : VirtioDevice σ) : Prop where
  writeConfig : ∀ s offset data,
    ops.ackedFeatures (ops.writeConfig s offset data) = ops.ackedFeatures s
  activate : ∀ mem s s' eventIdx, ops.activate mem s = .ok (s', eventIdx) →
    ops.ackedFeatures s' = ops.ackedFeatures s

namespace MmioTransport

open DeviceStatus

variable {σ : Type} {ops : VirtioDevice σ} {s s' : MmioTransport σ}

theorem checkDeviceStatus_ack_of_featuresOk (h : s.deviceStatus[3] = true) :
    s.checkDeviceStatus driver (featuresOk ||| failed) = false := by
  simp only [checkDeviceStatus, beq_eq_false_iff_ne, ne_eq]
  intro heq
  have := congrArg (·[3]) heq
  simp [featuresOk, driver, failed, h] at this

@[simp] theorem updateQueueField_inner {f : Queue → Queue} :
    (s.updateQueueField f).device.inner = s.device.inner := by
  unfold updateQueueField
  split <;> rfl

theorem write_inner_cases {o : BitVec 64} {data : List (BitVec 8)}
    (hs : s.write ops o data = some s') :
    (∃ v, s.setDeviceStatus ops v = some s') ∨
      (∃ v, s.checkDeviceStatus driver (featuresOk ||| failed) = true ∧
        s'.device.inner = ops.ackFeaturesByPage s.device.inner s.ackedFeaturesSelect v) ∨
      (∃ offset data, s'.device.inner = ops.writeConfig s.device.inner offset data) ∨
      s'.device.inner = s.device.inner := by
  unfold write at hs
  split at hs
  · split at hs
    all_goals
      first
      | exact .inl ⟨_, hs⟩
      | (cases hs; exact .inr (.inr (.inr rfl)))
      | (cases hs; exact .inr (.inr (.inr updateQueueField_inner)))
      | (split at hs <;> cases hs <;> exact .inr (.inr (.inr rfl)))
      | (split at hs
         · cases hs
           exact .inr (.inl ⟨_, by assumption, rfl⟩)
         · cases hs
           exact .inr (.inr (.inr rfl)))
  · split at hs
    · split at hs
      · cases hs
        exact .inr (.inr (.inl ⟨_, _, rfl⟩))
      · cases hs
        exact .inr (.inr (.inr rfl))
    · cases hs
      exact .inr (.inr (.inr rfl))

theorem setDeviceStatus_ackedFeatures (hk : ops.KeepsAckedFeatures) {v : BitVec 32}
    (hs : s.setDeviceStatus ops v = some s') :
    ops.ackedFeatures s'.device.inner = ops.ackedFeatures s.device.inner := by
  rcases setDeviceStatus_activation hs with ⟨hinner, _⟩ | ⟨_, _, d, hd, hs'⟩
  · rw [hinner]
  · subst hs'
    unfold Device.activate at hd
    split at hd
    · rename_i inner eventIdx hact
      cases hd
      exact hk.activate _ _ _ _ hact
    · contradiction

/-- **The freeze while `FEATURES_OK` is set.** No write to the transport of a device that keeps
its acknowledged features changes them while the status has `FEATURES_OK`. -/
theorem write_ackedFeatures_of_featuresOk (hk : ops.KeepsAckedFeatures)
    (h : s.deviceStatus[3] = true) {o : BitVec 64} {data : List (BitVec 8)}
    (hs : s.write ops o data = some s') :
    ops.ackedFeatures s'.device.inner = ops.ackedFeatures s.device.inner := by
  rcases write_inner_cases hs with ⟨v, hv⟩ | ⟨v, hck, -⟩ | ⟨offset, data, hcfg⟩ | hsame
  · exact setDeviceStatus_ackedFeatures hk hv
  · rw [checkDeviceStatus_ack_of_featuresOk h] at hck
    contradiction
  · rw [hcfg]
    exact hk.writeConfig _ _ _
  · rw [hsame]

theorem setDeviceStatus_driverOk_step {v : BitVec 32}
    (h₄ : ~~~s.deviceStatus &&& v = driverOk ∧
      s.deviceStatus = acknowledge ||| driver ||| featuresOk)
    (hs : s.setDeviceStatus ops v = some s') : s'.deviceStatus = v := by
  have hne : s.deviceStatus ≠ init ∧ s.deviceStatus ≠ acknowledge ∧
      s.deviceStatus ≠ acknowledge ||| driver := by
    rw [h₄.2]
    decide
  unfold setDeviceStatus at hs
  simp only [hne.1, hne.2.1, hne.2.2, and_false, if_false] at hs
  rw [if_pos h₄] at hs
  split at hs
  · cases hs; rfl
  split at hs
  · contradiction
  · cases hs; rfl
  · split at hs
    · cases hs; rfl
    · contradiction

theorem setDeviceStatus_featuresOk (h : s.deviceStatus[3] = true) {v : BitVec 32}
    (hs : s.setDeviceStatus ops v = some s') :
    s'.deviceStatus[3] = true ∨ s'.deviceStatus = init ∨
      (s.deviceStatus = acknowledge ||| driver ||| featuresOk ∧ ~~~s.deviceStatus &&& v = driverOk ∧
        s'.deviceStatus = v ∧ v[3] = false) := by
  have hne : s.deviceStatus ≠ init ∧ s.deviceStatus ≠ acknowledge ∧
      s.deviceStatus ≠ acknowledge ||| driver := by
    refine ⟨?_, ?_, ?_⟩ <;> (intro heq; rw [heq] at h; revert h; decide)
  by_cases h₄ : ~~~s.deviceStatus &&& v = driverOk ∧
      s.deviceStatus = acknowledge ||| driver ||| featuresOk
  · have hst := setDeviceStatus_driverOk_step h₄ hs
    cases hv : v[3]
    · exact .inr (.inr ⟨h₄.2, h₄.1, hst, rfl⟩)
    · exact .inl (hst ▸ hv)
  unfold setDeviceStatus at hs
  simp only [hne.1, hne.2.1, hne.2.2, and_false, if_false] at hs
  rw [if_neg h₄] at hs
  by_cases h₅ : v &&& failed ≠ 0
  · rw [if_pos h₅] at hs
    cases hs
    left
    simp [h]
  rw [if_neg h₅] at hs
  by_cases h₆ : v = 0
  · rw [if_pos h₆] at hs
    cases hs
    by_cases hact : s.device.activated = true
    · have hf : (s.deviceStatus ||| failed) &&& failed ≠ 0 := by
        intro h0
        have := congrArg (·[7]) h0
        simp [failed] at this
      simp only [hact, if_true, Device.reset]
      split
      · contradiction
      · left
        simp [h]
    · simp only [hact, Bool.false_eq_true, if_false]
      split
      · exact .inr (.inl rfl)
      · exact .inl h
  · rw [if_neg h₆] at hs
    cases hs
    exact .inl h

/-- **`DRIVER_OK` clears `FEATURES_OK`.** From the status `ACKNOWLEDGE | DRIVER | FEATURES_OK`, the
guest's write of `ACKNOWLEDGE | DRIVER | DRIVER_OK` to the status register, when it returns, takes
the `DRIVER_OK` step and stores that value; from then on the register at `0x20` acknowledges
every value the guest writes to it. -/
theorem write_driverOk_clears_featuresOk (hs : s.deviceStatus = acknowledge ||| driver ||| featuresOk)
    (h : s.write ops 0x70 (leOfU32 (acknowledge ||| driver ||| driverOk)) = some s')
    (value : BitVec 32) :
    s'.deviceStatus = acknowledge ||| driver ||| driverOk ∧
      s'.write ops 0x20 (leOfU32 value) =
        some { s' with
          device.inner := ops.ackFeaturesByPage s'.device.inner s'.ackedFeaturesSelect value } := by
  have hset : s.setDeviceStatus ops (acknowledge ||| driver ||| driverOk) = some s' := by
    simpa [write] using h
  have hchg : ~~~s.deviceStatus &&& (acknowledge ||| driver ||| driverOk) = driverOk := by
    rw [hs]
    decide
  have hst := setDeviceStatus_driverOk_step ⟨hchg, hs⟩ hset
  refine ⟨hst, ?_⟩
  have hck : s'.checkDeviceStatus driver (featuresOk ||| failed) = true := by
    rw [checkDeviceStatus, hst]
    decide
  simp [write, hck]

/-- The same, for a transport in status `ACKNOWLEDGE | DRIVER | FEATURES_OK` around a device with
no queues that offers feature `0`. -/
theorem write_driverOk_clears_featuresOk_noQueues :
    let ops : VirtioDevice (BitVec 64) :=
      ⟨fun _ => 2, fun _ => 1, id, fun _ a => a, fun _ _ d => d, fun s _ _ => s,
        fun _ s => .ok (s, false)⟩
    let s : MmioTransport (BitVec 64) :=
      { MmioTransport.new ⟨[⟨0, 0x10000⟩], fun _ => 0⟩ ⟨0, [], false, 0⟩ with deviceStatus := 0xb }
    s.deviceStatus = acknowledge ||| driver ||| featuresOk ∧
      ∃ s', s.write ops 0x70 (leOfU32 (acknowledge ||| driver ||| driverOk)) = some s' ∧
        s'.deviceStatus = acknowledge ||| driver ||| driverOk ∧
        s'.write ops 0x20 (leOfU32 1) =
          some { s' with device.inner := ops.ackFeaturesByPage s'.device.inner s'.ackedFeaturesSelect 1 } :=
  ⟨rfl, _, rfl, write_driverOk_clears_featuresOk
    (s := { MmioTransport.new ⟨[⟨0, 0x10000⟩], fun _ => 0⟩ ⟨0, [], false, 0⟩ with deviceStatus := 0xb })
    rfl rfl 1⟩

end MmioTransport

open MmioTransport DeviceStatus

/-- **Acknowledged features change after `FEATURES_OK`.** A device with no queues that offers
feature `0` and whose state is its acknowledged features, behind a transport built by
`MmioTransport::new`. The driver writes the status `ACKNOWLEDGE`, then `ACKNOWLEDGE | DRIVER`, then
`ACKNOWLEDGE | DRIVER | FEATURES_OK`, with no feature acknowledged. It then writes
`ACKNOWLEDGE | DRIVER | DRIVER_OK`, which activates the device, and `1` to the register at `0x20`.
The status is never `INIT` again, and the acknowledged features of the active device go from `0`
to `1`. -/
theorem ackedFeatures_afterFeaturesOk_counterexample :
    let ops : VirtioDevice (BitVec 64) :=
      ⟨fun _ => 2, fun _ => 1, id, fun _ a => a, fun _ _ d => d, fun s _ _ => s,
        fun _ s => .ok (s, false)⟩
    let t := MmioTransport.new ⟨[⟨0, 0x10000⟩], fun _ => 0⟩ ⟨(0 : BitVec 64), [], false, 0⟩
    let status (v : BitVec 32) : MmioOp := .write 0x70 (leOfU32 v)
    ∃ s₁ s₂ s₃, Run.run (step ops) t [status 1, status 3, status 0xb] = some s₁ ∧
      s₁.deviceStatus[3] = true ∧ ops.ackedFeatures s₁.device.inner = 0 ∧
      step ops s₁ (status 7) = some s₂ ∧ s₂.deviceStatus = 7 ∧ s₂.device.activated = true ∧
      step ops s₂ (.write 0x20 (leOfU32 1)) = some s₃ ∧ s₃.deviceStatus = 7 ∧
      ops.ackedFeatures s₃.device.inner = 1 :=
  ⟨_, _, _, rfl, by decide, rfl, rfl, rfl, rfl, rfl, rfl, rfl⟩

end Virtio
end Firecracker
