import Mathlib.Data.List.Perm.Basic

/-!
# Firecracker.Lib.Ledger

The items a device takes and must give back, read off the log of what it did: a descriptor head
popped from a virtqueue is given back by an `undo_pop` right after its pop, or by an `add_used`
at any later time. `settle` keeps the items taken and not yet given back, the last taken first; an
`undo` must give back the item taken last, and a `give` an item that is outstanding. A log that
gives back something it does not hold settles to `none`.
-/

namespace Ledger

/-- What one entry of a log does to the items outstanding. -/
inductive Op (ι : Type)
  | take (i : ι)
  | undo (i : ι)
  | give (i : ι)
  | other
  deriving DecidableEq, Repr

variable {ι : Type} [DecidableEq ι]

/-- The items outstanding after the log `ops`, from the items `out`. -/
def settle : List ι → List (Op ι) → Option (List ι)
  | out, [] => some out
  | out, .take i :: ops => settle (i :: out) ops
  | out, .undo i :: ops =>
    match out with
    | last :: out => if last = i then settle out ops else none
    | [] => none
  | out, .give i :: ops => if i ∈ out then settle (out.erase i) ops else none
  | out, .other :: ops => settle out ops

theorem settle_append (out : List ι) (ops ops' : List (Op ι)) :
    settle out (ops ++ ops') = (settle out ops).bind fun out => settle out ops' := by
  induction ops generalizing out with
  | nil => rfl
  | cons op ops ih =>
    cases op with
    | take i => exact ih (i :: out)
    | undo i =>
      cases out with
      | nil => rfl
      | cons last out =>
        simp only [List.cons_append, settle]
        split <;> simp [ih]
    | give i =>
      simp only [List.cons_append, settle]
      split <;> simp [ih]
    | other => exact ih out

@[simp] theorem settle_take (out : List ι) (i : ι) : settle out [.take i] = some (i :: out) := rfl

@[simp] theorem settle_undo (out : List ι) (i : ι) : settle (i :: out) [.undo i] = some out := by
  simp [settle]

@[simp] theorem settle_give_cons (out : List ι) (i : ι) :
    settle (i :: out) [.give i] = some out := by
  simp [settle]

theorem settle_of_other {out : List ι} {ops : List (Op ι)} (h : ∀ op ∈ ops, op = .other) :
    settle out ops = some out := by
  induction ops with
  | nil => rfl
  | cons op ops ih =>
    rw [h op List.mem_cons_self]
    exact ih fun op hop => h op (List.mem_cons_of_mem _ hop)

end Ledger
