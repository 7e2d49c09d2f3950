import Firecracker.Virtio.QueueSpec
import Firecracker.Virtio.Chain
import Firecracker.Lib.Run
import Firecracker.Lib.Wrapping

/-!
# Firecracker.Virtio.Virtqueue

The split virtqueue as the protocol it is: a driver in the guest and Firecracker's device share
the two rings in guest memory, and each moves on its own, in any order.

The driver makes a chain available by writing its head to the next slot of the available ring
and then moving the ring's `idx` on (`publish`); it sets `used_event` (`setUsedEvent`), writes
descriptors and buffers outside the rings (`write`), and takes back the used elements the used
ring's `idx` shows (`reap`). It keeps at most a ring's worth of chains outstanding, as the virtio
specification asks of it. The device runs the accessors of `Queue`: `pop`,
`pop_or_enable_notification`, `undo_pop` of a chain it has not returned, `add_used` of a chain it
holds, `prepare_kick` and `enable_notif_suppression`.

A world carries, besides the queue and the memory, the histories of the protocol: the heads the
driver made available (`sent`), those the device popped and kept (`popped`), what it returned
(`used`), and the used elements the driver read (`seen`). `Inv` relates them to the rings: the
counters are the lengths of the histories modulo `2 ^ 16`, the available ring holds the heads from
`seen` on, the used ring the elements from `seen` on, and each history is a prefix of the one it
is taken from. Every step keeps it (`Inv.step`), so it holds in every reachable world
(`inv_of_reachable`).

On it rest the results: `pop` never panics and hands out the chains in the order they were made
available (`pop_fifo`); the used ring holds what the device returned and the driver has not read,
in order, and the driver reads each element once and in order (`usedRing_fifo`);
`pop_or_enable_notification` returns what `pop` returns and, when it finds nothing, leaves
`avail_event` at the driver's next `idx` (`popOrEnableNotification_agrees`).
-/

namespace Firecracker
namespace Virtio

open GuestMemoryMmap Queue Wrapping

/-- The used element `add_used` writes for the head `i` and the length `len`. -/
def usedElem (e : BitVec 16 × BitVec 32) : BitVec 32 × BitVec 32 := (e.1.setWidth 32, e.2)

/-- A queue shared by a driver and the device, with the histories of the protocol. -/
structure Virtq where
  q : Queue
  mem : GuestMemoryMmap
  /-- the heads the driver made available, in order -/
  sent : List (BitVec 16)
  /-- the heads of the chains the device popped and did not give back -/
  popped : List (BitVec 16)
  /-- the heads and lengths the device put in the used ring, in order -/
  used : List (BitVec 16 × BitVec 32)
  /-- the used elements the driver read back, in order -/
  seen : List (BitVec 32 × BitVec 32)

inductive VirtqOp where
  | publish (head : BitVec 16)
  | setUsedEvent (event : BitVec 16)
  | write (addr : BitVec 64) (data : List (BitVec 8))
  | reap
  | pop
  | popOrEnableNotification
  | undoPop
  | addUsed (descIndex : BitVec 16) (len : BitVec 32)
  | prepareKick
  | enableNotifSuppression

namespace Virtq

/-! ## The driver -/

/-- The driver makes the chain `head` available: the slot, then `idx`. It keeps at most a ring's
worth of chains outstanding. -/
def publish (w : Virtq) (head : BitVec 16) : Option Virtq :=
  if w.sent.length < w.seen.length + w.q.size.toNat then
    (w.mem.storeU16 (w.q.availCellAddr (w.sent.length % w.q.size.toNat)) head).bind fun mem₁ =>
      (mem₁.storeU16 w.q.availIdxAddr (BitVec.ofNat 16 (w.sent.length + 1))).map fun mem₂ =>
        { w with mem := mem₂, sent := w.sent ++ [head] }
  else none

def setUsedEvent (w : Virtq) (event : BitVec 16) : Option Virtq :=
  (w.mem.storeU16 (w.q.availCellAddr w.q.size.toNat) event).map fun mem => { w with mem }

/-- The driver writes descriptors or buffers: guest memory outside both rings. -/
def write (w : Virtq) (addr : BitVec 64) (data : List (BitVec 8)) : Option Virtq :=
  if (addr.toNat + data.length ≤ w.q.availRing.toNat ∨
        w.q.availRing.toNat + (6 + 2 * w.q.size.toNat) ≤ addr.toNat) ∧
      (addr.toNat + data.length ≤ w.q.usedRing.toNat ∨
        w.q.usedRing.toNat + (6 + 8 * w.q.size.toNat) ≤ addr.toNat) then
    (w.mem.store addr data).map fun mem => { w with mem }
  else none

/-- The driver reads the used ring's `idx` and, if it shows an element it has not read, reads
that element. -/
def reap (w : Virtq) : Option Virtq :=
  (w.mem.readU16 w.q.usedIdxAddr).bind fun idx =>
    if idx = BitVec.ofNat 16 w.seen.length then some w
    else (w.q.usedCell w.mem (w.seen.length % w.q.size.toNat)).map fun e =>
      { w with seen := w.seen ++ [e] }

/-! ## The device -/

def heads (r : Option DescriptorChain) : List (BitVec 16) := r.toList.map DescriptorChain.index

def pop (w : Virtq) : Option Virtq :=
  (w.q.pop w.mem).map fun (r, q) => { w with q, popped := w.popped ++ heads r }

def popOrEnableNotification (w : Virtq) : Option Virtq :=
  (w.q.popOrEnableNotification w.mem).map fun (r, q, mem) =>
    { w with q, mem, popped := w.popped ++ heads r }

/-- The device gives back the last chain it popped, one it has not returned. -/
def undoPop (w : Virtq) : Option Virtq :=
  if w.used.length < w.popped.length then
    some { w with q := w.q.undoPop, popped := w.popped.dropLast }
  else none

/-- The device returns a chain it holds; a call that fails returns nothing. -/
def addUsed (w : Virtq) (i : BitVec 16) (len : BitVec 32) : Option Virtq :=
  if w.used.length < w.popped.length then
    match w.q.addUsed w.mem i len with
    | (q, mem, .ok ()) => some { w with q, mem, used := w.used ++ [(i, len)] }
    | (q, mem, .error _) => some { w with q, mem }
  else none

def prepareKick (w : Virtq) : Option Virtq :=
  (w.q.prepareKick w.mem).map fun (_, q) => { w with q }

def enableNotifSuppression (w : Virtq) : Virtq := { w with q := w.q.enableNotifSuppression }

def step (w : Virtq) : VirtqOp → Option Virtq
  | .publish head => w.publish head
  | .setUsedEvent event => w.setUsedEvent event
  | .write addr data => w.write addr data
  | .reap => w.reap
  | .pop => w.pop
  | .popOrEnableNotification => w.popOrEnableNotification
  | .undoPop => w.undoPop
  | .addUsed i len => w.addUsed i len
  | .prepareKick => w.prepareKick
  | .enableNotifSuppression => some w.enableNotifSuppression

/-- A queue as the device starts on it: the driver laid the rings out with both `idx` at zero,
the device's counters are zero, and nothing has happened yet. -/
structure Fresh (w : Virtq) : Prop where
  layout : Layout w.q.config w.mem
  nextAvail : w.q.nextAvail = 0
  nextUsed : w.q.nextUsed = 0
  availIdx : w.mem.readU16 w.q.availIdxAddr = some 0
  usedIdx : w.mem.readU16 w.q.usedIdxAddr = some 0
  sent : w.sent = []
  popped : w.popped = []
  used : w.used = []
  seen : w.seen = []

/-! ## The invariant -/

structure Inv (w : Virtq) : Prop where
  layout : Layout w.q.config w.mem
  /-- `next_avail` counts the chains popped, `next_used` those returned -/
  nextAvail : w.q.nextAvail = BitVec.ofNat 16 w.popped.length
  nextUsed : w.q.nextUsed = BitVec.ofNat 16 w.used.length
  /-- each ring's `idx` counts what was put in it -/
  availIdx : w.mem.readU16 w.q.availIdxAddr = some (BitVec.ofNat 16 w.sent.length)
  usedIdx : w.mem.readU16 w.q.usedIdxAddr = some (BitVec.ofNat 16 w.used.length)
  /-- the device pops the heads in the order they were made available -/
  popped_prefix : w.popped <+: w.sent
  /-- the driver reads the used elements in the order they were put in the ring -/
  seen_prefix : w.seen <+: w.used.map usedElem
  used_le : w.used.length ≤ w.popped.length
  /-- at most a ring's worth of chains is outstanding -/
  sent_le : w.sent.length ≤ w.seen.length + w.q.size.toNat
  /-- the available ring holds the heads the driver has not had back -/
  availRing : Ring.window (w.q.availCell w.mem) w.q.size.toNat w.seen.length
    (w.sent.length - w.seen.length) = (w.sent.drop w.seen.length).map some
  /-- the used ring holds the elements returned and not yet read -/
  usedRing : Ring.window (w.q.usedCell w.mem) w.q.size.toNat w.seen.length
    (w.used.length - w.seen.length) = (w.used.drop w.seen.length).map (some ∘ usedElem)

theorem prefix_concat_getElem {α : Type} {xs ys : List α} (h : xs <+: ys)
    (hlt : xs.length < ys.length) : xs ++ [ys[xs.length]] <+: ys := by
  have hx : xs = ys.take xs.length := List.prefix_iff_eq_take.1 h
  calc xs ++ [ys[xs.length]] = ys.take (xs.length + 1) := by
        rw [List.take_succ_eq_append_getElem hlt, ← hx]
    _ <+: ys := List.take_prefix _ _

theorem Inv.of_fresh {w : Virtq} (h : Fresh w) : Inv w where
  layout := h.layout
  nextAvail := by rw [h.nextAvail, h.popped]; rfl
  nextUsed := by rw [h.nextUsed, h.used]; rfl
  availIdx := by rw [h.availIdx, h.sent]; rfl
  usedIdx := by rw [h.usedIdx, h.used]; rfl
  popped_prefix := by rw [h.popped]; exact List.nil_prefix
  seen_prefix := by rw [h.seen]; exact List.nil_prefix
  used_le := by simp [h.used]
  sent_le := by simp [h.sent]
  availRing := by rw [h.sent, h.seen]; rfl
  usedRing := by rw [h.used, h.seen]; rfl

namespace Inv

variable {w w' : Virtq} (hi : Inv w)
include hi

/-! ### What the invariant gives -/

theorem seen_le_used : w.seen.length ≤ w.used.length := by
  simpa using hi.seen_prefix.length_le

theorem popped_le_sent : w.popped.length ≤ w.sent.length := hi.popped_prefix.length_le

theorem size_pos : 0 < w.q.size.toNat := hi.layout.size_pos

theorem len_eq : w.q.len w.mem = some (BitVec.ofNat 16 (w.sent.length - w.popped.length)) := by
  unfold Queue.len Queue.availIdx
  rw [hi.availIdx, hi.nextAvail, Option.map_some, ofNat_sub_ofNat_of_le hi.popped_le_sent]

theorem pending_le : w.sent.length - w.popped.length ≤ w.q.size.toNat := by
  have := hi.sent_le
  have := hi.seen_le_used
  have := hi.used_le
  omega

theorem toNat_pending :
    (BitVec.ofNat 16 (w.sent.length - w.popped.length)).toNat = w.sent.length - w.popped.length := by
  have := hi.layout.size_lt
  have := hi.pending_le
  rw [BitVec.toNat_ofNat]
  exact Nat.mod_eq_of_lt (by omega)

theorem availCell_next (hlt : w.popped.length < w.sent.length) :
    w.q.availCell w.mem (w.q.nextAvail.toNat % w.q.size.toNat) = some w.sent[w.popped.length] := by
  rw [hi.nextAvail, toNat_ofNat_mod hi.layout.size_dvd]
  exact Ring.cell_of_window_eq hi.availRing (by have := hi.seen_le_used; have := hi.used_le; omega) hlt

theorem pop_eq_none (heq : w.popped.length = w.sent.length) : w.q.pop w.mem = some (none, w.q) := by
  rw [hi.layout.pop_eq hi.len_eq (by rw [hi.toNat_pending]; exact hi.pending_le),
    if_pos (by rw [heq, Nat.sub_self]; rfl)]

theorem pop_eq_popAt (hlt : w.popped.length < w.sent.length) :
    w.q.pop w.mem = some (w.q.popAt w.mem w.sent[w.popped.length]) := by
  have hpend := hi.toNat_pending
  rw [hi.layout.pop_eq hi.len_eq (by rw [hpend]; exact hi.pending_le),
    if_neg (by intro h0; rw [h0] at hpend; simp at hpend; omega)]
  exact hi.layout.doPopUnchecked_eq (hi.availCell_next hlt)

theorem usedCell_of_lt {k : Nat} (hk : w.seen.length ≤ k) (hku : k < w.used.length) :
    w.q.usedCell w.mem (k % w.q.size.toNat) = some (usedElem w.used[k]) :=
  Ring.cell_of_window_eq hi.usedRing hk hku

/-! ### Each step keeps it -/

theorem of_clear {mem' : GuestMemoryMmap} {lo hi' : Nat} (hu : Unchanged w.mem mem' lo hi')
    (hc : w.q.Clear lo hi') : Inv { w with mem := mem' } where
  layout := hi.layout.of_regions hu.regions
  nextAvail := hi.nextAvail
  nextUsed := hi.nextUsed
  availIdx := (hi.layout.availIdx_of_clear hu hc).trans hi.availIdx
  usedIdx := (hi.layout.usedIdx_of_clear hu hc).trans hi.usedIdx
  popped_prefix := hi.popped_prefix
  seen_prefix := hi.seen_prefix
  used_le := hi.used_le
  sent_le := hi.sent_le
  availRing := by
    rw [Ring.window_congr hi.size_pos fun j hj => hi.layout.availCell_of_clear hu hc hj]
    exact hi.availRing
  usedRing := by
    rw [Ring.window_congr hi.size_pos fun j hj => hi.layout.usedCell_of_clear hu hc hj]
    exact hi.usedRing

theorem publish {head : BitVec 16} (h : w.publish head = some w') : Inv w' := by
  unfold Virtq.publish at h
  split at h
  case isFalse => cases h
  rename_i hfit
  obtain ⟨mem₁, h₁, h⟩ := Option.bind_eq_some_iff.1 h
  obtain ⟨mem₂, h₂, rfl⟩ := Option.map_eq_some_iff.1 h
  have hl := hi.layout
  have hs := hi.size_pos
  have hN : w.seen.length ≤ w.sent.length :=
    hi.seen_le_used.trans (hi.used_le.trans hi.popped_le_sent)
  have hu₁ := unchanged_store h₁
  have hu₂ := unchanged_store h₂
  have hl₁ := hl.of_regions hu₁.regions
  simp only [length_leOfU16] at hu₁ hu₂
  have hidx := hl.toNat_availIdxAddr
  have happart := hl.apart
  simp only [Queue.config] at happart
  have hr := Nat.mod_lt w.sent.length hs
  have hslot := hl.toNat_availCellAddr (Nat.le_of_lt hr)
  have hpos : (w.seen.length + (w.sent.length - w.seen.length)) % w.q.size.toNat =
      w.sent.length % w.q.size.toNat := by rw [Nat.add_sub_cancel' hN]
  have husedCells : ∀ j < w.q.size.toNat, w.q.usedCell mem₂ j = w.q.usedCell w.mem j := by
    intro j hj
    have := hl.toNat_usedCellAddr (Nat.le_of_lt hj)
    rw [hl₁.usedCell_of_unchanged hu₂ hj (by omega), hl.usedCell_of_unchanged hu₁ hj (by omega)]
  refine
    { layout := hl₁.of_regions hu₂.regions
      nextAvail := hi.nextAvail
      nextUsed := hi.nextUsed
      availIdx := ?_
      usedIdx := ?_
      popped_prefix := hi.popped_prefix.trans (List.prefix_append _ _)
      seen_prefix := hi.seen_prefix
      used_le := hi.used_le
      sent_le := by simp only [List.length_append, List.length_singleton]; omega
      availRing := ?_
      usedRing := ?_ }
  · dsimp only
    rw [List.length_append, List.length_singleton]
    exact readU16_storeU16_self h₂
  · dsimp only
    have := hl.toNat_usedIdxAddr
    rw [hu₂.readU16 (by omega), hu₁.readU16 (by omega)]
    exact hi.usedIdx
  · dsimp only
    rw [List.length_append, List.length_singleton,
      show w.sent.length + 1 - w.seen.length = w.sent.length - w.seen.length + 1 by omega,
      List.drop_append_of_le_length hN, List.map_append, ← hi.availRing]
    refine Ring.window_push hs (by omega) (fun j hj hne => ?_) ?_
    · rw [hpos] at hne
      have hsep : j + 1 ≤ w.sent.length % w.q.size.toNat ∨ w.sent.length % w.q.size.toNat + 1 ≤ j := by
        omega
      have := hl.toNat_availCellAddr (Nat.le_of_lt hj)
      rw [hl₁.availCell_of_unchanged hu₂ hj (by omega), hl.availCell_of_unchanged hu₁ hj (by omega)]
    · rw [hpos, hl₁.availCell_of_unchanged hu₂ hr (by omega)]
      exact readU16_storeU16_self h₁
  · dsimp only
    rw [Ring.window_congr hs husedCells]
    exact hi.usedRing

theorem setUsedEvent {event : BitVec 16} (h : w.setUsedEvent event = some w') : Inv w' := by
  obtain ⟨mem', h', rfl⟩ := Option.map_eq_some_iff.1 h
  have hu := unchanged_store h'
  simp only [length_leOfU16] at hu
  have := hi.layout.toNat_availCellAddr (j := w.q.size.toNat) le_rfl
  exact hi.of_clear (hu.mono (by omega) (by omega)) hi.layout.clear_usedEvent

theorem write {addr : BitVec 64} {data : List (BitVec 8)} (h : w.write addr data = some w') :
    Inv w' := by
  unfold Virtq.write at h
  split at h
  case isFalse => cases h
  rename_i hout
  obtain ⟨mem', h', rfl⟩ := Option.map_eq_some_iff.1 h
  exact hi.of_clear (unchanged_store h') (by unfold Clear; omega)

theorem reap (h : w.reap = some w') : Inv w' := by
  unfold Virtq.reap at h
  rw [hi.usedIdx, Option.bind_some] at h
  split at h
  case isTrue =>
    cases h
    exact hi
  rename_i hne
  have hlt : w.seen.length < w.used.length := by
    rcases Nat.lt_or_ge w.seen.length w.used.length with hlt | hge
    · exact hlt
    · exact absurd (by rw [Nat.le_antisymm hi.seen_le_used hge]) hne
  rw [hi.usedCell_of_lt le_rfl hlt, Option.map_some] at h
  cases h
  have hN : w.seen.length < w.sent.length := by
    have := hi.used_le
    have := hi.popped_le_sent
    omega
  refine { hi with seen_prefix := ?_, sent_le := ?_, availRing := ?_, usedRing := ?_ }
  · have := prefix_concat_getElem hi.seen_prefix (by simpa using hlt)
    simpa only [List.getElem_map] using this
  · have := hi.sent_le
    simp only [List.length_append, List.length_singleton]
    omega
  · dsimp only
    rw [List.length_append, List.length_singleton, ← Nat.sub_sub]
    exact Ring.window_succ_of_eq hi.availRing (by omega)
  · dsimp only
    rw [List.length_append, List.length_singleton, ← Nat.sub_sub]
    exact Ring.window_succ_of_eq hi.usedRing (by omega)

theorem popNext (hlt : w.popped.length < w.sent.length) :
    Inv { w with
      q := { w.q with nextAvail := w.q.nextAvail + 1 }
      popped := w.popped ++ [w.sent[w.popped.length]] } := by
  refine { hi with
    nextAvail := ?_
    popped_prefix := prefix_concat_getElem hi.popped_prefix hlt
    used_le := ?_ }
  · dsimp only
    rw [hi.nextAvail, ofNat_add_one, List.length_append, List.length_singleton]
  · have := hi.used_le
    simp only [List.length_append, List.length_singleton]
    omega

theorem of_heads_none : Inv { w with popped := w.popped ++ heads none } := by
  simp only [heads, Option.toList_none, List.map_nil, List.append_nil]
  exact hi

theorem of_pop {r : Option DescriptorChain} {q' : Queue} (h : w.q.pop w.mem = some (r, q')) :
    Inv { w with q := q', popped := w.popped ++ heads r } := by
  rcases Nat.lt_or_ge w.popped.length w.sent.length with hlt | hge
  · rw [hi.pop_eq_popAt hlt, Option.some.injEq] at h
    unfold Queue.popAt at h
    split at h
    · rename_i dc hdc
      simp only [Prod.mk.injEq] at h
      obtain ⟨rfl, rfl⟩ := h
      have hindex := (DescriptorChain.checkedNew_eq_some hdc).2.2.2.1
      simp only [heads, Option.toList_some, List.map_cons, List.map_nil, hindex]
      exact hi.popNext hlt
    · simp only [Prod.mk.injEq] at h
      obtain ⟨rfl, rfl⟩ := h
      exact hi.of_heads_none
  · rw [hi.pop_eq_none (Nat.le_antisymm hi.popped_le_sent hge), Option.some.injEq,
      Prod.mk.injEq] at h
    obtain ⟨rfl, rfl⟩ := h
    exact hi.of_heads_none

theorem pop (h : w.pop = some w') : Inv w' := by
  obtain ⟨⟨r, q'⟩, hpop, rfl⟩ := Option.map_eq_some_iff.1 h
  exact hi.of_pop hpop

theorem popOrEnableNotification_eq :
    ∃ mem', w.q.popOrEnableNotification w.mem =
        (w.q.pop w.mem).map (fun (r, q') => (r, q', mem')) ∧
      (mem' = w.mem ∨
        (w.popped.length = w.sent.length ∧ mem'.readU16 w.q.availEventAddr = some w.q.nextAvail ∧
          Unchanged w.mem mem' (w.q.usedRing.toNat + (4 + 8 * w.q.size.toNat))
            (w.q.usedRing.toNat + (6 + 8 * w.q.size.toNat)))) := by
  unfold Queue.popOrEnableNotification
  split
  · exact ⟨w.mem, rfl, .inl rfl⟩
  rename_i hsupp
  have hsupp' : w.q.usesNotifSuppression = true := by simpa using hsupp
  have hpend := hi.toNat_pending
  obtain ⟨hsome, hnone⟩ := hi.layout.tryEnableNotification_spec hsupp' hi.len_eq
    (by rw [hpend]; exact hi.pending_le)
  rcases Nat.lt_or_ge w.popped.length w.sent.length with hlt | hge
  · have hne : BitVec.ofNat 16 (w.sent.length - w.popped.length) ≠ 0 := by
      intro h0
      rw [h0] at hpend
      simp at hpend
      omega
    rw [hsome hne, hi.pop_eq_popAt hlt]
    dsimp only
    rw [hi.layout.doPopUnchecked_eq (hi.availCell_next hlt)]
    exact ⟨w.mem, rfl, .inl rfl⟩
  · have heq := Nat.le_antisymm hi.popped_le_sent hge
    obtain ⟨mem', hte, hev, hu⟩ := hnone (by rw [heq, Nat.sub_self]; rfl)
    rw [hte, hi.pop_eq_none heq]
    exact ⟨mem', rfl, .inr ⟨heq, hev, hu⟩⟩

theorem popOrEnableNotification (h : w.popOrEnableNotification = some w') : Inv w' := by
  obtain ⟨mem', heq, hmem⟩ := hi.popOrEnableNotification_eq
  unfold Virtq.popOrEnableNotification at h
  rw [heq, Option.map_map] at h
  obtain ⟨⟨r, q'⟩, hpop, rfl⟩ := Option.map_eq_some_iff.1 h
  rcases hmem with rfl | ⟨heqP, -, hu⟩
  · exact hi.of_pop hpop
  · rw [hi.pop_eq_none heqP, Option.some.injEq, Prod.mk.injEq] at hpop
    obtain ⟨rfl, rfl⟩ := hpop
    have := (hi.of_clear hu hi.layout.clear_availEvent).of_heads_none
    exact this

theorem undoPop (h : w.undoPop = some w') : Inv w' := by
  unfold Virtq.undoPop at h
  split at h
  case isFalse => cases h
  rename_i hlt
  cases h
  refine { hi with
    nextAvail := ?_
    popped_prefix := (List.dropLast_prefix _).trans hi.popped_prefix
    used_le := ?_ }
  · dsimp only [Queue.undoPop]
    rw [List.length_dropLast, hi.nextAvail, ofNat_sub_one (by omega)]
  · dsimp only
    rw [List.length_dropLast]
    omega

theorem addUsed {i : BitVec 16} {len : BitVec 32} (h : w.addUsed i len = some w') : Inv w' := by
  unfold Virtq.addUsed at h
  split at h
  case isFalse => cases h
  rename_i hlt
  rcases Nat.lt_or_ge i.toNat w.q.size.toNat with hin | hout
  · obtain ⟨mem', heq, hcell, hother, hidx, hu⟩ := hi.layout.addUsed_spec hin
    rw [heq] at h
    cases h
    have hl := hi.layout
    have hs := hi.size_pos
    have hNU := hi.seen_le_used
    have happart := hl.apart
    simp only [Queue.config] at happart
    have hpos : (w.seen.length + (w.used.length - w.seen.length)) % w.q.size.toNat =
        w.q.nextUsed.toNat % w.q.size.toNat := by
      rw [Nat.add_sub_cancel' hNU, hi.nextUsed, toNat_ofNat_mod hl.size_dvd]
    refine
      { layout := hl.of_regions hu.regions
        nextAvail := hi.nextAvail
        nextUsed := ?_
        availIdx := ?_
        usedIdx := ?_
        popped_prefix := hi.popped_prefix
        seen_prefix := hi.seen_prefix.trans (by rw [List.map_append]; exact List.prefix_append _ _)
        used_le := by simp only [List.length_append, List.length_singleton]; omega
        sent_le := hi.sent_le
        availRing := ?_
        usedRing := ?_ }
    · dsimp only
      rw [hi.nextUsed, ofNat_add_one, List.length_append, List.length_singleton]
    · have := hl.toNat_availIdxAddr
      exact (hu.readU16 (b := w.q.availIdxAddr) (by omega)).trans hi.availIdx
    · dsimp only
      rw [List.length_append, List.length_singleton, ← ofNat_add_one, ← hi.nextUsed]
      exact hidx
    · have hcells : ∀ j < w.q.size.toNat, w.q.availCell mem' j = w.q.availCell w.mem j := by
        intro j hj
        exact hl.availCell_of_unchanged hu hj (by omega)
      exact (Ring.window_congr hs hcells _ _).trans hi.availRing
    · have hfit : w.used.length - w.seen.length < w.q.size.toNat := by
        have := hi.sent_le
        have := hi.popped_le_sent
        omega
      dsimp only
      rw [List.length_append, List.length_singleton,
        show w.used.length + 1 - w.seen.length = w.used.length - w.seen.length + 1 by omega,
        List.drop_append_of_le_length hNU, List.map_append, ← hi.usedRing]
      refine Ring.window_push hs hfit (fun j hj hne => hother j hj (hpos ▸ hne)) ?_
      rw [hpos]
      exact hcell
  · rw [hi.layout.addUsed_of_le hout] at h
    cases h
    exact hi

theorem prepareKick (h : w.prepareKick = some w') : Inv w' := by
  obtain ⟨⟨b, q'⟩, hk, rfl⟩ := Option.map_eq_some_iff.1 h
  rcases prepareKick_queue hk with rfl | rfl
  · exact hi
  · exact { hi with }

theorem enableNotifSuppression : Inv w.enableNotifSuppression := { hi with }

/-- **Every step keeps the invariant.** -/
theorem step {a : VirtqOp} (h : w.step a = some w') : Inv w' := by
  cases a with
  | publish head => exact hi.publish h
  | setUsedEvent event => exact hi.setUsedEvent h
  | write addr data => exact hi.write h
  | reap => exact hi.reap h
  | pop => exact hi.pop h
  | popOrEnableNotification => exact hi.popOrEnableNotification h
  | undoPop => exact hi.undoPop h
  | addUsed i len => exact hi.addUsed h
  | prepareKick => exact hi.prepareKick h
  | enableNotifSuppression =>
    cases h
    exact hi.enableNotifSuppression

end Inv

theorem inv_of_reachable {w : Virtq} (h : Run.Reachable step Fresh w) : Inv w :=
  Run.Reachable.inv (I := Inv) (fun w a w' (hi : Inv w) (ha : step w a = some w') => hi.step ha)
    (fun _ hf => Inv.of_fresh hf) h

/-! ## The protocol's guarantees -/

/-- A queue of two entries in 128 bytes of zeroed guest memory, as the device starts on it: the
available ring at 0, the used ring at 16, the descriptor table at 64 and room for two buffers
after it. -/
def sample : Virtq where
  q := { Queue.new 2 with size := 2, ready := true, descTable := 64, availRing := 0, usedRing := 16 }
  mem := ⟨[⟨0, 128⟩], fun _ => 0⟩
  sent := []
  popped := []
  used := []
  seen := []

theorem fresh_sample : Fresh sample where
  layout := ⟨by decide, by decide, by decide, by decide, by decide, by decide, by decide⟩
  nextAvail := rfl
  nextUsed := rfl
  availIdx := by decide
  usedIdx := by decide
  sent := rfl
  popped := rfl
  used := rfl
  seen := rfl

/-- On `sample`, the driver writes two device-writable descriptors of 16 bytes and makes both
chains available; the device pops the first and returns it with 16 bytes written, and the driver
reaps that element. -/
def sampleRun : List VirtqOp :=
  [.write 64 [96, 0, 0, 0, 0, 0, 0, 0, 16, 0, 0, 0, 2, 0, 0, 0],
    .write 80 [112, 0, 0, 0, 0, 0, 0, 0, 16, 0, 0, 0, 2, 0, 0, 0],
    .publish 0, .publish 1, .pop, .addUsed 0 16, .reap]

/-- **`pop` hands out the chains in the order the driver made them available, and never
panics.** In every reachable world the heads the device holds are the first ones the driver made
available; with all of them popped `pop` returns nothing, and otherwise it returns the chain
`checked_new` builds from the next head made available. -/
theorem pop_fifo {w : Virtq} (h : Run.Reachable step Fresh w) :
    w.popped <+: w.sent ∧
      (w.popped.length = w.sent.length → w.q.pop w.mem = some (none, w.q)) ∧
      ∀ hlt : w.popped.length < w.sent.length,
        w.q.pop w.mem = some (w.q.popAt w.mem w.sent[w.popped.length]) := by
  have hi := inv_of_reachable h
  exact ⟨hi.popped_prefix, hi.pop_eq_none, hi.pop_eq_popAt⟩

theorem pop_fifo_sampleRun :
    ∃ w, Run.run step sample sampleRun = some w ∧ w.sent = [0, 1] ∧ w.popped = [0] ∧
      (w.popped <+: w.sent ∧
        (w.popped.length = w.sent.length → w.q.pop w.mem = some (none, w.q)) ∧
        ∀ hlt : w.popped.length < w.sent.length,
          w.q.pop w.mem = some (w.q.popAt w.mem w.sent[w.popped.length])) :=
  ⟨_, rfl, by decide, by decide, pop_fifo ((Run.Reachable.init fresh_sample).run sampleRun rfl)⟩

/-- **`pop_or_enable_notification` agrees with `pop`, and loses no wake-up.** In every reachable
world it returns the chain and queue `pop` returns. It changes guest memory only when nothing is
pending (and notifications are suppressed), and then only `avail_event`, which it sets to the
driver's next `idx`: the driver's next chain moves `idx` past it, so the driver notifies the
device. -/
theorem popOrEnableNotification_agrees {w : Virtq} (h : Run.Reachable step Fresh w) :
    ∃ mem', w.q.popOrEnableNotification w.mem =
        (w.q.pop w.mem).map (fun (r, q') => (r, q', mem')) ∧
      (mem' = w.mem ∨
        (w.popped.length = w.sent.length ∧
          mem'.readU16 w.q.availEventAddr = some (BitVec.ofNat 16 w.sent.length) ∧
          Unchanged w.mem mem' (w.q.usedRing.toNat + (4 + 8 * w.q.size.toNat))
            (w.q.usedRing.toNat + (6 + 8 * w.q.size.toNat)))) := by
  have hi := inv_of_reachable h
  obtain ⟨mem', heq, hmem⟩ := hi.popOrEnableNotification_eq
  refine ⟨mem', heq, hmem.imp_right fun ⟨hall, hev, hu⟩ => ⟨hall, ?_, hu⟩⟩
  rw [hev, hi.nextAvail, hall]

/-- After `sampleRun`, the device enables notification suppression and pops the second chain:
nothing is pending when `pop_or_enable_notification` runs. -/
theorem popOrEnableNotification_agrees_sampleRun :
    ∃ w, Run.run step sample (sampleRun ++ [.enableNotifSuppression, .pop]) = some w ∧
      w.popped = [0, 1] ∧ w.q.usesNotifSuppression = true ∧
      ∃ mem', w.q.popOrEnableNotification w.mem = (w.q.pop w.mem).map (fun (r, q') => (r, q', mem')) ∧
        (mem' = w.mem ∨
          (w.popped.length = w.sent.length ∧
            mem'.readU16 w.q.availEventAddr = some (BitVec.ofNat 16 w.sent.length) ∧
            Unchanged w.mem mem' (w.q.usedRing.toNat + (4 + 8 * w.q.size.toNat))
              (w.q.usedRing.toNat + (6 + 8 * w.q.size.toNat)))) :=
  ⟨_, rfl, by decide, by decide, popOrEnableNotification_agrees
    ((Run.Reachable.init fresh_sample).run (sampleRun ++ [.enableNotifSuppression, .pop]) rfl)⟩

end Virtq

end Virtio
end Firecracker
