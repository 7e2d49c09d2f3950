import Mathlib.Data.List.Destutter

/-!
# Firecracker.Lib.Runs

Runs of one element `c` in a list. `halve c` is one left-to-right pass that replaces each `c c` it
meets by `c`, without overlap: a run of `n` copies of `c` becomes one of `⌈n / 2⌉`. `collapse c`
replaces every maximal run by a single `c`. It is `List.destutter` for the relation "not both
`c`" (`Apart`), so it leaves no `c c` (`isChain_collapse`) and keeps every other element in order
(`filter_collapse`).

Repeated passes reach `collapse`: a pass does not change what collapsing gives
(`collapse_halve`), and a pass that does not shorten the list found no `c c` in it, so the list is
already collapsed (`halve_eq_self_of_length`).
-/

namespace Runs

variable {α : Type*} [DecidableEq α] (c : α)

/-- Not both `c`: the neighbours `collapse` keeps side by side. -/
def Apart (a b : α) : Prop := ¬(a = c ∧ b = c)

instance : DecidableRel (Apart c) := fun _ _ => inferInstanceAs (Decidable (¬_))

/-- One pass that replaces `c c` by `c`, from the left and without overlap. -/
def halve : List α → List α
  | a :: b :: rest => if a = c ∧ b = c then c :: halve rest else a :: halve (b :: rest)
  | l => l

def collapse (l : List α) : List α := l.destutter (Apart c)

variable {c}

/-! ### Collapsing -/

@[simp] theorem collapse_nil : collapse c ([] : List α) = [] := List.destutter_nil _

@[simp] theorem collapse_singleton (a : α) : collapse c [a] = [a] := List.destutter_singleton _

theorem collapse_cons_cons (a b : α) (l : List α) :
    collapse c (a :: b :: l) =
      if a = c ∧ b = c then collapse c (b :: l) else a :: collapse c (b :: l) := by
  unfold collapse
  rw [List.destutter_cons_cons, List.destutter_cons']
  by_cases h : a = c ∧ b = c
  · rw [if_neg (show ¬Apart c a b from not_not.2 h), if_pos h, h.1, h.2]
  · rw [if_pos (show Apart c a b from h), if_neg h]

theorem isChain_collapse (l : List α) : (collapse c l).IsChain (Apart c) :=
  List.isChain_destutter _ l

theorem collapse_of_isChain {l : List α} (h : l.IsChain (Apart c)) : collapse c l = l :=
  List.destutter_of_isChain _ l h

/-- **Collapsing keeps every element other than `c`, in order.** -/
theorem filter_collapse (l : List α) :
    (collapse c l).filter (fun a => a ≠ c) = l.filter (fun a => a ≠ c) := by
  induction l with
  | nil => rfl
  | cons a t ih =>
    cases t with
    | nil => rfl
    | cons b t =>
      rw [collapse_cons_cons]
      split
      · rename_i h
        rw [ih, List.filter_cons_of_neg (p := fun a => decide (a ≠ c)) (a := a) (by simp [h.1])]
      · rw [List.filter_cons, ih, List.filter_cons (x := a)]

theorem collapse_cons_congr (a : α) {l l' : List α} (hhead : l.head? = l'.head?)
    (h : collapse c l = collapse c l') : collapse c (a :: l) = collapse c (a :: l') := by
  cases l with
  | nil =>
    cases l' with
    | nil => rfl
    | cons => cases hhead
  | cons b t =>
    cases l' with
    | nil => cases hhead
    | cons b' t' =>
      obtain rfl : b = b' := Option.some.inj hhead
      rw [collapse_cons_cons, collapse_cons_cons, h]

/-! ### One pass -/

theorem head?_halve (l : List α) : (halve c l).head? = l.head? := by
  match l with
  | [] => rfl
  | [_] => rfl
  | a :: b :: rest =>
    unfold halve
    split
    · rename_i h
      rw [h.1]
      rfl
    · rfl

/-- **A pass does not change what collapsing gives**: it shortens runs without emptying them. -/
theorem collapse_halve (l : List α) : collapse c (halve c l) = collapse c l := by
  fun_induction halve c l with
  | case1 a b rest h ih =>
    rw [h.1, h.2, collapse_cons_cons, if_pos ⟨rfl, rfl⟩]
    exact collapse_cons_congr c (head?_halve rest) ih
  | case2 a b rest _ ih => exact collapse_cons_congr a (head?_halve (b :: rest)) ih
  | case3 => rfl

theorem length_halve_le (l : List α) : (halve c l).length ≤ l.length := by
  fun_induction halve c l with
  | case1 a b rest _ ih =>
    simp only [List.length_cons]
    omega
  | case2 a b rest _ ih =>
    simp only [List.length_cons] at ih ⊢
    omega
  | case3 => exact Nat.le_refl _

/-- **A pass that does not shorten the list found no `c c` in it**, and left it as it was. -/
theorem halve_eq_self_of_length {l : List α} (h : (halve c l).length = l.length) :
    halve c l = l ∧ l.IsChain (Apart c) := by
  fun_induction halve c l with
  | case1 a b rest _ ih =>
    have := length_halve_le (c := c) rest
    simp only [List.length_cons] at h
    omega
  | case2 a b rest hab ih =>
    have h' : (halve c (b :: rest)).length = (b :: rest).length := by
      simp only [List.length_cons] at h ⊢
      omega
    obtain ⟨heq, hchain⟩ := ih h'
    exact ⟨by rw [heq], hchain.cons_cons hab⟩
  | case3 l hl =>
    refine ⟨rfl, ?_⟩
    match l, hl with
    | [], _ => exact List.isChain_nil
    | [a], _ => exact List.isChain_singleton a
    | a :: b :: rest, hl => exact absurd rfl (hl a b rest)

end Runs
