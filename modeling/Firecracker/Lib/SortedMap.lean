import Mathlib

/-!
# Firecracker.Lib.SortedMap

An ordered map (a `BTreeMap`) as the list of its entries, keys strictly increasing. `get?` reads an
entry; `remove` and `entryUpdate` (`entry(k).or_insert(d)` and then an update of the entry in
place) search the keys in order and stop at the first one not below `k`, as a B-tree search does.

Every lemma is stated through `get?`: what `remove` and `entryUpdate` do to the entry of their
key and to the others, that both keep the keys in order, and when they change nothing. Two maps
with their keys in order and the same entries are equal (`ext`).
-/

namespace SortedMap

variable {κ β : Type*} [LinearOrder κ]

def Sorted (m : List (κ × β)) : Prop := m.Pairwise fun a b => a.1 < b.1

def get? (k : κ) : List (κ × β) → Option β
  | [] => none
  | (k', v) :: rest => if k = k' then some v else get? k rest

def remove (k : κ) : List (κ × β) → List (κ × β)
  | [] => []
  | (k', v) :: rest =>
    if k < k' then (k', v) :: rest else if k = k' then rest else (k', v) :: remove k rest

/-- `entry(k).or_insert(d)`, then `f` applied to the entry: the entry of `k` updated in place, or
`f d` inserted where the order of the keys puts it. -/
def entryUpdate (k : κ) (d : β) (f : β → β) : List (κ × β) → List (κ × β)
  | [] => [(k, f d)]
  | (k', v) :: rest =>
    if k < k' then (k, f d) :: (k', v) :: rest
    else if k = k' then (k', f v) :: rest
    else (k', v) :: entryUpdate k d f rest

variable {k k' : κ} {d : β} {f : β → β} {m : List (κ × β)}

@[simp] theorem get?_nil : get? k ([] : List (κ × β)) = none := rfl

theorem get?_cons (v : β) (rest : List (κ × β)) :
    get? k ((k', v) :: rest) = if k = k' then some v else get? k rest := rfl

@[simp] theorem get?_cons_self (v : β) (rest : List (κ × β)) : get? k ((k, v) :: rest) = some v :=
  if_pos rfl

theorem sorted_cons {v : β} {rest : List (κ × β)} :
    Sorted ((k', v) :: rest) ↔ (∀ e ∈ rest, k' < e.1) ∧ Sorted rest :=
  List.pairwise_cons

theorem get?_eq_none (h : ∀ e ∈ m, e.1 ≠ k) : get? k m = none := by
  induction m with
  | nil => rfl
  | cons e rest ih =>
    obtain ⟨k', v⟩ := e
    rw [get?_cons, if_neg (Ne.symm (h _ List.mem_cons_self))]
    exact ih fun e he => h e (List.mem_cons_of_mem _ he)

theorem get?_eq_none_of_lt {v : β} {rest : List (κ × β)} (hs : Sorted ((k', v) :: rest))
    (hlt : k < k') : get? k ((k', v) :: rest) = none := by
  refine get?_eq_none fun e he => ?_
  rcases List.mem_cons.1 he with rfl | he
  · exact ne_of_gt hlt
  · exact ne_of_gt (lt_trans hlt ((sorted_cons.1 hs).1 e he))

theorem get?_tail_eq_none {v : β} {rest : List (κ × β)} (hs : Sorted ((k, v) :: rest)) :
    get? k rest = none :=
  get?_eq_none fun e he => ne_of_gt ((sorted_cons.1 hs).1 e he)

theorem get?_of_mem {v : β} (hs : Sorted m) (hmem : (k, v) ∈ m) : get? k m = some v := by
  induction m with
  | nil => cases hmem
  | cons e rest ih =>
    obtain ⟨k', v'⟩ := e
    obtain ⟨hhead, htail⟩ := sorted_cons.1 hs
    rcases List.mem_cons.1 hmem with heq | hmem'
    · obtain ⟨rfl, rfl⟩ := Prod.mk.inj heq
      exact get?_cons_self _ _
    · rw [get?_cons, if_neg (ne_of_gt (hhead _ hmem')), ih htail hmem']

theorem mem_of_get? {v : β} (h : get? k m = some v) : (k, v) ∈ m := by
  induction m with
  | nil => cases h
  | cons e rest ih =>
    obtain ⟨k', v'⟩ := e
    rw [get?_cons] at h
    split at h
    · rename_i hk
      cases h
      rw [hk]
      exact List.mem_cons_self
    · exact List.mem_cons_of_mem _ (ih h)

/-! ### `remove` -/

theorem remove_sublist (k : κ) (m : List (κ × β)) : (remove k m).Sublist m := by
  induction m with
  | nil => exact List.Sublist.slnil
  | cons e rest ih =>
    obtain ⟨k', v⟩ := e
    unfold remove
    split
    · exact List.Sublist.refl _
    split
    · exact List.sublist_cons_self _ _
    · exact ih.cons_cons _

theorem sorted_remove (hs : Sorted m) : Sorted (remove k m) := hs.sublist (remove_sublist k m)

theorem get?_remove_self (hs : Sorted m) : get? k (remove k m) = none := by
  induction m with
  | nil => rfl
  | cons e rest ih =>
    obtain ⟨k', v⟩ := e
    unfold remove
    split
    · exact get?_eq_none_of_lt hs ‹_›
    split
    · rename_i _ hk
      subst hk
      exact get?_tail_eq_none hs
    · rename_i _ hne
      rw [get?_cons, if_neg hne, ih (sorted_cons.1 hs).2]

theorem get?_remove_of_ne (hne : k' ≠ k) : get? k' (remove k m) = get? k' m := by
  induction m with
  | nil => rfl
  | cons e rest ih =>
    obtain ⟨k'', v⟩ := e
    unfold remove
    split
    · rfl
    split
    · rename_i _ hk
      subst hk
      rw [get?_cons, if_neg hne]
    · rw [get?_cons, get?_cons, ih]

theorem remove_of_get?_eq_none (h : get? k m = none) : remove k m = m := by
  induction m with
  | nil => rfl
  | cons e rest ih =>
    obtain ⟨k', v⟩ := e
    rw [get?_cons] at h
    unfold remove
    split
    · rfl
    split
    · rename_i _ hk
      rw [if_pos hk] at h
      cases h
    · rename_i _ hk
      rw [if_neg hk] at h
      rw [ih h]

/-! ### `entryUpdate` -/

theorem get?_entryUpdate_self (hs : Sorted m) :
    get? k (entryUpdate k d f m) = some (f ((get? k m).getD d)) := by
  induction m with
  | nil => simp [entryUpdate]
  | cons e rest ih =>
    obtain ⟨k', v⟩ := e
    unfold entryUpdate
    split
    · rename_i hlt
      rw [get?_eq_none_of_lt hs hlt, get?_cons_self]
      rfl
    split
    · rename_i _ hk
      rw [get?_cons, if_pos hk, get?_cons, if_pos hk]
      rfl
    · rename_i _ hne
      rw [get?_cons, if_neg hne, get?_cons, if_neg hne, ih (sorted_cons.1 hs).2]

theorem get?_entryUpdate_of_ne (hne : k' ≠ k) : get? k' (entryUpdate k d f m) = get? k' m := by
  induction m with
  | nil => simp [entryUpdate, get?_cons, hne]
  | cons e rest ih =>
    obtain ⟨k'', v⟩ := e
    unfold entryUpdate
    split
    · rw [get?_cons, if_neg hne]
    split
    · rename_i _ hk
      subst hk
      rw [get?_cons, get?_cons, if_neg hne, if_neg hne]
    · rw [get?_cons, get?_cons, ih]

theorem mem_entryUpdate {e : κ × β} (he : e ∈ entryUpdate k d f m) :
    e ∈ m ∨ ∃ x, (x = d ∨ (k, x) ∈ m) ∧ e = (k, f x) := by
  induction m with
  | nil =>
    rw [entryUpdate, List.mem_singleton] at he
    exact .inr ⟨d, .inl rfl, he⟩
  | cons e' rest ih =>
    obtain ⟨k', v⟩ := e'
    unfold entryUpdate at he
    split at he
    · rcases List.mem_cons.1 he with rfl | he
      · exact .inr ⟨d, .inl rfl, rfl⟩
      · exact .inl he
    split at he
    · rename_i _ hk
      subst hk
      rcases List.mem_cons.1 he with rfl | he
      · exact .inr ⟨v, .inr List.mem_cons_self, rfl⟩
      · exact .inl (List.mem_cons_of_mem _ he)
    · rcases List.mem_cons.1 he with rfl | he
      · exact .inl List.mem_cons_self
      · rcases ih he with he | ⟨x, hx, rfl⟩
        · exact .inl (List.mem_cons_of_mem _ he)
        · exact .inr ⟨x, hx.imp_right (List.mem_cons_of_mem _), rfl⟩

theorem forall_entryUpdate (P : β → Prop) (hm : ∀ e ∈ m, P e.2) (hd : P d)
    (hf : ∀ x, P x → P (f x)) : ∀ e ∈ entryUpdate k d f m, P e.2 := by
  intro e he
  rcases mem_entryUpdate he with he | ⟨x, hx | hx, rfl⟩
  · exact hm e he
  · exact hf x (hx ▸ hd)
  · exact hf x (hm _ hx)

theorem sorted_entryUpdate (hs : Sorted m) : Sorted (entryUpdate k d f m) := by
  induction m with
  | nil => exact List.pairwise_singleton _ _
  | cons e rest ih =>
    obtain ⟨k', v⟩ := e
    obtain ⟨hhead, htail⟩ := sorted_cons.1 hs
    unfold entryUpdate
    split
    · rename_i hlt
      refine sorted_cons.2 ⟨fun e he => ?_, hs⟩
      rcases List.mem_cons.1 he with rfl | he
      · exact hlt
      · exact lt_trans hlt (hhead e he)
    split
    · exact sorted_cons.2 ⟨hhead, htail⟩
    · rename_i hnlt hne
      have hgt : k' < k := lt_of_le_of_ne (not_lt.1 hnlt) (Ne.symm hne)
      refine sorted_cons.2 ⟨fun e he => ?_, ih htail⟩
      rcases mem_entryUpdate he with he | ⟨x, -, rfl⟩
      · exact hhead e he
      · exact hgt

theorem entryUpdate_of_get? {v : β} (hs : Sorted m) (h : get? k m = some v) (hf : f v = v) :
    entryUpdate k d f m = m := by
  induction m with
  | nil => cases h
  | cons e rest ih =>
    obtain ⟨k', v'⟩ := e
    unfold entryUpdate
    split
    · rename_i hlt
      rw [get?_eq_none_of_lt hs hlt] at h
      cases h
    split
    · rename_i _ hk
      rw [get?_cons, if_pos hk] at h
      cases h
      rw [hf]
    · rename_i _ hne
      rw [get?_cons, if_neg hne] at h
      rw [ih (sorted_cons.1 hs).2 h]

/-! ### Equality -/

/-- **Two maps with their keys in order and the same entries are equal.** The induction is on
the first map; the two first keys are equal, as each is the least key with an entry. -/
theorem ext {m m' : List (κ × β)} (hs : Sorted m) (hs' : Sorted m')
    (h : ∀ k, get? k m = get? k m') : m = m' := by
  induction m generalizing m' with
  | nil =>
    cases m' with
    | nil => rfl
    | cons e rest =>
      have := h e.1
      rw [get?_nil, get?_cons_self] at this
      cases this
  | cons e rest ih =>
    obtain ⟨k, v⟩ := e
    obtain ⟨hhead, htail⟩ := sorted_cons.1 hs
    cases m' with
    | nil =>
      have := h k
      rw [get?_nil, get?_cons_self] at this
      cases this
    | cons e' rest' =>
      obtain ⟨k', v'⟩ := e'
      obtain ⟨hhead', htail'⟩ := sorted_cons.1 hs'
      have hk : get? k ((k', v') :: rest') = some v := by rw [← h, get?_cons_self]
      have hk' : get? k' ((k, v) :: rest) = some v' := by rw [h, get?_cons_self]
      obtain rfl : k = k' := by
        rcases lt_trichotomy k k' with hlt | heq | hgt
        · rw [get?_eq_none_of_lt hs' hlt] at hk
          cases hk
        · exact heq
        · rw [get?_eq_none_of_lt hs hgt] at hk'
          cases hk'
      rw [get?_cons_self] at hk
      cases hk
      refine congrArg _ (ih htail htail' fun j => ?_)
      by_cases hj : j = k
      · subst hj
        rw [get?_tail_eq_none hs, get?_tail_eq_none hs']
      · have := h j
        rwa [get?_cons, get?_cons, if_neg hj, if_neg hj] at this

end SortedMap
