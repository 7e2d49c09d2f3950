import Mathlib.Data.List.Perm.Basic

/-!
# Firecracker.IoUring

`io_uring/src/lib.rs`: the ring of a file engine, as the operations it holds. An operation
pushed onto the submission queue waits there until `submit` hands it to the kernel; the kernel
completes it with a completion entry (`Cqe`) that carries the operation's `user_data` back; `pop`
takes entries off the completion queue.

`num_ops` counts the operations in all three places; `push` refuses an operation once it reaches
the size of the completion queue (`FullCQueue`), and the submission queue refuses one once it is
full (`SQueue(FullQueue)`). The kernel is an actor of its own: `complete` is the kernel posting
the completion of one operation it was handed, with the operation's `user_data` unchanged.
-/

namespace Firecracker

/-- An `IoUring` whose operations carry user data of type `α`; a completed operation carries the
result the kernel gave it. -/
structure IoUring (α : Type) where
  /-- The size of the completion queue, `cqueue.count()`. -/
  cqCount : Nat
  /-- The size of the submission queue. -/
  sqCount : Nat
  /-- Pushed, not yet submitted. -/
  toSubmit : List α
  /-- Submitted to the kernel, not yet completed. -/
  inFlight : List α
  /-- Completed, not yet popped. -/
  cqes : List (α × Except Int Nat)
  numOps : Nat
  deriving DecidableEq, Repr

namespace IoUring

inductive Error where
  | fullCQueue
  | sQueueFullQueue
  deriving DecidableEq, Repr

/-- `Error::is_throttling_err`: a full completion or submission queue. -/
def Error.isThrottlingErr : Error → Bool
  | .fullCQueue => true
  | .sQueueFullQueue => true

variable {α : Type}

def new (cqCount sqCount : Nat) : IoUring α := ⟨cqCount, sqCount, [], [], [], 0⟩

/-- `IoUring::push`: the operation goes back with the error when it is refused. -/
def push (r : IoUring α) (userData : α) : Except (Error × α) (IoUring α) :=
  if r.numOps ≥ r.cqCount then .error (.fullCQueue, userData)
  else if r.toSubmit.length ≥ r.sqCount then .error (.sQueueFullQueue, userData)
  else .ok { r with toSubmit := r.toSubmit ++ [userData], numOps := r.numOps + 1 }

def pop (r : IoUring α) : Option (α × Except Int Nat) × IoUring α :=
  match r.cqes with
  | [] => (none, r)
  | cqe :: cqes => (some cqe, { r with cqes, numOps := r.numOps - 1 })

/-- `IoUring::submit`: the kernel takes every operation waiting in the submission queue. -/
def submit (r : IoUring α) : IoUring α :=
  { r with toSubmit := [], inFlight := r.inFlight ++ r.toSubmit }

/-- The kernel completes the `i`-th operation it was handed, with the result `res`. -/
def complete (r : IoUring α) (i : Nat) (res : Except Int Nat) : Option (IoUring α) :=
  match r.inFlight[i]? with
  | some userData => some { r with inFlight := r.inFlight.eraseIdx i, cqes := r.cqes ++ [(userData, res)] }
  | none => none

def ops (r : IoUring α) : List α := r.toSubmit ++ r.inFlight ++ r.cqes.map Prod.fst

/-- What the ring keeps: `num_ops` counts the operations it holds, and they fit in the completion
queue. -/
def Inv (r : IoUring α) : Prop := r.numOps = r.ops.length ∧ r.numOps ≤ r.cqCount

/-! ### Where each operation goes -/

variable {r r' : IoUring α} {x : α}

theorem push_ok (h : r.push x = .ok r') :
    r.numOps < r.cqCount ∧ r'.ops.Perm (x :: r.ops) ∧ r'.numOps = r.numOps + 1 ∧
      r'.cqCount = r.cqCount := by
  unfold push at h
  split at h
  · cases h
  split at h
  · cases h
  cases h
  refine ⟨by omega, ?_, rfl, rfl⟩
  simp only [ops, List.append_assoc]
  exact List.perm_middle

theorem push_full (h : r.cqCount ≤ r.numOps) (x : α) : r.push x = .error (.fullCQueue, x) := by
  simp [push, h]

theorem push_error {e : Error} {y : α} (h : r.push x = .error (e, y)) :
    y = x ∧ e.isThrottlingErr = true := by
  unfold push at h
  split at h
  · cases h
    exact ⟨rfl, rfl⟩
  split at h
  · cases h
    exact ⟨rfl, rfl⟩
  · cases h

theorem pop_some {res : Except Int Nat} (h : r.pop = (some (x, res), r')) :
    r.ops.Perm (x :: r'.ops) ∧ r'.numOps = r.numOps - 1 ∧ r'.cqCount = r.cqCount := by
  unfold pop at h
  split at h
  · cases h
  · rename_i cqe cqes hcq
    cases h
    refine ⟨?_, rfl, rfl⟩
    simp only [ops, hcq, List.map_cons]
    exact List.perm_middle

theorem ops_submit : (r.submit).ops.Perm r.ops := by
  simp only [ops, submit, List.nil_append]
  exact List.perm_append_comm.append_right _

theorem complete_some {i : Nat} {res : Except Int Nat} (h : r.complete i res = some r') :
    r'.ops.Perm r.ops ∧ r'.numOps = r.numOps ∧ r'.cqCount = r.cqCount := by
  unfold complete at h
  split at h
  · rename_i userData hi
    cases h
    refine ⟨?_, rfl, rfl⟩
    have hmem : r.inFlight.Perm (userData :: r.inFlight.eraseIdx i) := by
      obtain ⟨hlt, heq⟩ := List.getElem?_eq_some_iff.1 hi
      rw [← heq]
      exact (List.getElem_cons_eraseIdx_perm hlt).symm
    have hend : (r.toSubmit ++ r.inFlight.eraseIdx i ++ (r.cqes.map Prod.fst ++ [userData])).Perm
        (userData :: (r.toSubmit ++ r.inFlight.eraseIdx i ++ r.cqes.map Prod.fst)) := by
      rw [← List.append_assoc]
      exact List.perm_append_singleton _ _
    have hmid : (r.toSubmit ++ (userData :: r.inFlight.eraseIdx i) ++ r.cqes.map Prod.fst).Perm
        (userData :: (r.toSubmit ++ r.inFlight.eraseIdx i ++ r.cqes.map Prod.fst)) := by
      simp only [List.append_assoc, List.cons_append]
      exact List.perm_middle
    simp only [ops, List.map_append, List.map_cons, List.map_nil]
    exact hend.trans (hmid.symm.trans ((hmem.append_left _).append_right _).symm)
  · cases h

/-! ### The invariant -/

theorem new_inv (cqCount sqCount : Nat) : (new cqCount sqCount : IoUring α).Inv := by
  simp [Inv, new, ops]

theorem Inv.push (hi : r.Inv) (h : r.push x = .ok r') : r'.Inv := by
  obtain ⟨hlt, hperm, hnum, hcq⟩ := push_ok h
  refine ⟨?_, ?_⟩
  · rw [hnum, hperm.length_eq, List.length_cons, hi.1]
  · omega

theorem Inv.pop {res : Except Int Nat} (hi : r.Inv) (h : r.pop = (some (x, res), r')) : r'.Inv := by
  obtain ⟨hperm, hnum, hcq⟩ := pop_some h
  have hlen := hperm.length_eq
  simp only [List.length_cons] at hlen
  refine ⟨?_, ?_⟩
  · rw [hnum, hi.1]
    omega
  · have := hi.2
    omega

theorem Inv.submit (hi : r.Inv) : r.submit.Inv := by
  refine ⟨?_, hi.2⟩
  rw [ops_submit.length_eq]
  exact hi.1

theorem Inv.complete {i : Nat} {res : Except Int Nat} (hi : r.Inv) (h : r.complete i res = some r') :
    r'.Inv := by
  obtain ⟨hperm, hnum, hcq⟩ := complete_some h
  refine ⟨?_, ?_⟩
  · rw [hnum, hperm.length_eq]
    exact hi.1
  · rw [hnum, hcq]
    exact hi.2

end IoUring

end Firecracker
