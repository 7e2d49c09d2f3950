import Firecracker.Virtio.Queue
import Firecracker.Lib.Run
import Firecracker.Lib.Wrapping

/-!
# Firecracker.Virtio.Notify

Notification suppression (`VIRTIO_F_EVENT_IDX`). The driver writes `used_event`: notify me once
the used ring's index passes this entry. After filling used entries, the device asks
`prepare_kick`, which compares `used_event` with the entries added since it last asked. These are
from `next_used - num_added` to `next_used`, because every `add_used` that adds an entry advances
both counters and `prepare_kick` resets `num_added`.

`KickWorld` runs the calls a device makes on the used ring, `add_used` and `prepare_kick`,
against any guest memory, and remembers `next_used` at the last `prepare_kick` (`lastKick`).
Over every run, `next_used - num_added` is `lastKick`; with the wrapping comparison of
`vring_need_event` this makes `prepare_kick` answer `true` exactly for a `used_event` in
`[lastKick, next_used)`.
-/

namespace Firecracker
namespace Virtio

open GuestMemoryMmap

theorem needEvent_iff {old new event : BitVec 16} :
    new - event - 1 < new - old ↔ Wrapping.dist old event < Wrapping.dist old new := by
  rw [BitVec.lt_def]
  unfold Wrapping.dist
  simp only [BitVec.toNat_sub]
  have h1 : (1 : BitVec 16).toNat = 1 := rfl
  rw [h1]
  have := old.isLt
  have := new.isLt
  have := event.isLt
  omega

namespace Queue

variable {q q' : Queue} {mem : GuestMemoryMmap}

theorem addUsed_counters (descIndex : BitVec 16) (len : BitVec 32) :
    let q' := (q.addUsed mem descIndex len).1
    q'.usesNotifSuppression = q.usesNotifSuppression ∧
      ((q'.numAdded = q.numAdded ∧ q'.nextUsed = q.nextUsed) ∨
        (q'.numAdded = q.numAdded + 1 ∧ q'.nextUsed = q.nextUsed + 1)) := by
  unfold addUsed
  split
  · exact ⟨rfl, .inl ⟨rfl, rfl⟩⟩
  split
  · exact ⟨rfl, .inl ⟨rfl, rfl⟩⟩
  split
  · exact ⟨rfl, .inl ⟨rfl, rfl⟩⟩
  dsimp only
  split <;> exact ⟨rfl, .inr ⟨rfl, rfl⟩⟩

theorem prepareKick_eq_some (hsupp : q.usesNotifSuppression = true) {b : Bool}
    (h : q.prepareKick mem = some (b, q')) :
    ∃ usedEvent, q.usedEvent mem = some usedEvent ∧
      b = decide (q.nextUsed - usedEvent - 1 < q.nextUsed - (q.nextUsed - q.numAdded)) ∧
      q' = { q with numAdded := 0 } := by
  unfold prepareKick at h
  rw [if_neg (by simp [hsupp])] at h
  obtain ⟨usedEvent, hue, heq⟩ := Option.map_eq_some_iff.mp h
  cases heq
  exact ⟨usedEvent, hue, rfl, rfl⟩

end Queue

/-! ### Runs -/

/-- The calls a device makes on the used ring, each with the guest memory of the moment (the
driver may have written `used_event` in between). -/
inductive UsedOp
  | addUsed (mem : GuestMemoryMmap) (descIndex : BitVec 16) (len : BitVec 32)
  | prepareKick (mem : GuestMemoryMmap)

structure KickWorld where
  queue : Queue
  lastKick : BitVec 16
  deriving DecidableEq

namespace KickWorld

/-- One call; a panic of `prepare_kick` (an unreadable `used_event`) ends the run. -/
def step (w : KickWorld) : UsedOp → Option KickWorld
  | .addUsed mem descIndex len =>
    some { w with queue := (w.queue.addUsed mem descIndex len).1 }
  | .prepareKick mem =>
    (w.queue.prepareKick mem).map fun r => ⟨r.2, w.queue.nextUsed⟩

/-- A queue with notification suppression and no entry added since `lastKick`. -/
def Created (w : KickWorld) : Prop :=
  w.queue.usesNotifSuppression = true ∧ w.queue.numAdded = 0 ∧ w.lastKick = w.queue.nextUsed

/-- Suppression stays on, and the entries added since the last kick start at `lastKick`. -/
structure Inv (w : KickWorld) : Prop where
  supp : w.queue.usesNotifSuppression = true
  old_eq : w.queue.nextUsed - w.queue.numAdded = w.lastKick

theorem Created.inv {w : KickWorld} (h : w.Created) : w.Inv := by
  obtain ⟨hsupp, hzero, hlast⟩ := h
  exact ⟨hsupp, by simp [hzero, hlast]⟩

theorem Inv.step {w w' : KickWorld} (hi : w.Inv) {op : UsedOp} (hs : w.step op = some w') :
    w'.Inv := by
  cases op with
  | addUsed mem descIndex len =>
    cases hs
    obtain ⟨hsupp, hcount⟩ :=
      @Queue.addUsed_counters w.queue mem descIndex len
    refine ⟨hsupp.trans hi.supp, ?_⟩
    rcases hcount with ⟨hn, hu⟩ | ⟨hn, hu⟩
    · simp only
      rw [hn, hu]
      exact hi.old_eq
    · simp only
      rw [hn, hu, ← hi.old_eq]
      abel
  | prepareKick mem =>
    obtain ⟨⟨b, q'⟩, hkick, rfl⟩ := Option.map_eq_some_iff.mp hs
    obtain ⟨-, -, -, rfl⟩ := Queue.prepareKick_eq_some hi.supp hkick
    exact ⟨hi.supp, by simp⟩

theorem reachable_inv {w : KickWorld} (hreach : Run.Reachable step Created w) : w.Inv :=
  Run.Reachable.inv (fun _ _ _ hi hs => hi.step hs) (fun _ h => h.inv) hreach

/-- **`prepare_kick` neither loses nor invents a kick.** Over every run of `add_used` and
`prepare_kick` calls, with any guest memory at each call, on a queue with notification
suppression: a `prepare_kick` answers `true` exactly when the driver's `used_event` lies in the
wrapping interval from `next_used` at the previous `prepare_kick` to the current `next_used`. -/
theorem prepareKick_iff_usedEvent_between {w : KickWorld}
    (hreach : Run.Reachable step Created w) {mem : GuestMemoryMmap} {b : Bool} {q' : Queue}
    (hkick : w.queue.prepareKick mem = some (b, q')) :
    ∃ usedEvent, w.queue.usedEvent mem = some usedEvent ∧
      (b = true ↔ Wrapping.dist w.lastKick usedEvent < Wrapping.dist w.lastKick w.queue.nextUsed) := by
  have hi := reachable_inv hreach
  obtain ⟨usedEvent, hue, hb, -⟩ := Queue.prepareKick_eq_some hi.supp hkick
  refine ⟨usedEvent, hue, ?_⟩
  rw [hb, decide_eq_true_iff, hi.old_eq]
  exact needEvent_iff

/-- Three entries added from `next_used = 0` while the driver asks to be told after entry `1`:
the following `prepare_kick` answers `true`. -/
theorem prepareKick_iff_usedEvent_between_threeAdded :
    let mem : GuestMemoryMmap := ⟨[⟨0, 0x10000⟩], fun a => if a = 0x200c then 1 else 0⟩
    let q : Queue :=
      { maxSize := 4, size := 4, ready := true, descTable := 0x1000, availRing := 0x2000,
        usedRing := 0x3000, nextAvail := 0, nextUsed := 0, usesNotifSuppression := true,
        numAdded := 0 }
    ∃ w q', Run.run step ⟨q, 0⟩ [.addUsed mem 0 5, .addUsed mem 1 5, .addUsed mem 2 5] = some w ∧
      w.queue.prepareKick mem = some (true, q') ∧
      ∃ usedEvent, w.queue.usedEvent mem = some usedEvent ∧
        (true = true ↔
          Wrapping.dist w.lastKick usedEvent < Wrapping.dist w.lastKick w.queue.nextUsed) := by
  intro mem q
  have hrun : Run.run step ⟨q, 0⟩ [.addUsed mem 0 5, .addUsed mem 1 5, .addUsed mem 2 5] =
      some ⟨{ q with nextUsed := 3, numAdded := 3 }, 0⟩ := by decide
  have hkick : Queue.prepareKick { q with nextUsed := 3, numAdded := 3 } mem =
      some (true, { q with nextUsed := 3, numAdded := 0 }) := by decide
  have hcreated : Created ⟨q, 0⟩ := ⟨rfl, rfl, rfl⟩
  have hreach : Run.Reachable step Created _ := (Run.Reachable.init hcreated).run _ hrun
  exact ⟨_, _, hrun, hkick, prepareKick_iff_usedEvent_between hreach hkick⟩

end KickWorld

end Virtio
end Firecracker
