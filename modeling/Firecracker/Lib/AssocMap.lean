import Mathlib.Data.List.AList

/-!
# Firecracker.Lib.AssocMap

`AList` as the model of a hash map: which entries `replace`, `insert` and `erase` leave, what
`lookup` finds after `replace`, how many keys `insert` of a new key and `erase` of a present one
leave, and that a key found by a search over the entries is a key of the map.
-/

namespace AList

variable {α : Type*} {β : α → Type*} {s : AList β} {a : α} {b : β a} {x : Sigma β}

theorem mem_of_find? {p : Sigma β → Bool} {k : α}
    (h : (s.entries.find? p).map Sigma.fst = some k) : k ∈ s := by
  obtain ⟨y, hy, rfl⟩ := Option.map_eq_some_iff.mp h
  exact mem_keys.mpr (List.mem_keys_of_mem (List.mem_of_find?_eq_some hy))

variable [DecidableEq α]

theorem mem_entries_replace (h : x ∈ (s.replace a b).entries) :
    x = ⟨a, b⟩ ∨ x ∈ s.entries := by
  change x ∈ List.kreplace a b s.entries at h
  unfold List.kreplace at h
  generalize s.entries = l at h ⊢
  induction l with
  | nil => simp at h
  | cons y l ih =>
    by_cases hay : a = y.1
    · have hf : (if a = y.1 then some (⟨a, b⟩ : Sigma β) else none) = some ⟨a, b⟩ := if_pos hay
      rw [List.lookmap_cons_some _ _ hf] at h
      rcases List.mem_cons.mp h with rfl | h
      · exact .inl rfl
      · exact .inr (List.mem_cons_of_mem _ h)
    · rw [List.lookmap_cons_none _ _ (by simp [hay])] at h
      rcases List.mem_cons.mp h with rfl | h
      · exact .inr List.mem_cons_self
      · exact (ih h).imp id (List.mem_cons_of_mem _)

theorem mem_entries_insert (h : x ∈ (s.insert a b).entries) : x = ⟨a, b⟩ ∨ x ∈ s.entries := by
  rw [entries_insert] at h
  rcases List.mem_cons.mp h with rfl | h
  · exact .inl rfl
  · exact .inr ((List.kerase_sublist a s.entries).subset h)

theorem mem_entries_erase (h : x ∈ (s.erase a).entries) : x ∈ s.entries :=
  (List.kerase_sublist a s.entries).subset h

theorem length_keys_erase_of_mem (h : a ∈ s) : (s.erase a).keys.length = s.keys.length - 1 := by
  rw [keys_erase, List.length_erase_of_mem (mem_keys.mp h)]

theorem length_keys_erase_le : (s.erase a).keys.length ≤ s.keys.length := by
  rw [keys_erase]
  exact List.length_erase_le

theorem length_keys_insert_of_notMem (h : a ∉ s) :
    (s.insert a b).keys.length = s.keys.length + 1 := by
  rw [keys_insert, List.erase_of_not_mem (fun h' => h (mem_keys.mpr h')), List.length_cons]

theorem mem_of_lookup_eq_some {e : β a} (h : s.lookup a = some e) : a ∈ s :=
  lookup_isSome.mp (by simp [h])

theorem lookup_replace_of_ne {a' : α} (h : a' ≠ a) : (s.replace a b).lookup a' = s.lookup a' := by
  change List.dlookup a' (List.kreplace a b s.entries) = List.dlookup a' s.entries
  unfold List.kreplace
  generalize s.entries = l
  induction l with
  | nil => rfl
  | cons y l ih =>
    obtain ⟨y₁, y₂⟩ := y
    by_cases hay : a = y₁
    · subst hay
      have hf : (if a = a then some (⟨a, b⟩ : Sigma β) else none) = some ⟨a, b⟩ := if_pos rfl
      rw [List.lookmap_cons_some _ _ hf, List.dlookup_cons_ne _ _ h, List.dlookup_cons_ne _ _ h]
    · have hf : (if a = y₁ then some (⟨a, b⟩ : Sigma β) else none) = none := if_neg hay
      rw [List.lookmap_cons_none _ _ hf]
      by_cases hy : a' = y₁
      · subst hy
        rw [List.dlookup_cons_eq, List.dlookup_cons_eq]
      · rw [List.dlookup_cons_ne _ _ hy, List.dlookup_cons_ne _ _ hy, ih]

theorem lookup_replace_self (h : a ∈ s) : (s.replace a b).lookup a = some b := by
  change List.dlookup a (List.kreplace a b s.entries) = some b
  have hk : a ∈ s.entries.keys := h
  unfold List.kreplace
  generalize s.entries = l at hk
  induction l with
  | nil => cases hk
  | cons y l ih =>
    obtain ⟨y₁, y₂⟩ := y
    by_cases hay : a = y₁
    · subst hay
      have hf : (if a = a then some (⟨a, b⟩ : Sigma β) else none) = some ⟨a, b⟩ := if_pos rfl
      rw [List.lookmap_cons_some _ _ hf, List.dlookup_cons_eq]
    · have hf : (if a = y₁ then some (⟨a, b⟩ : Sigma β) else none) = none := if_neg hay
      rw [List.lookmap_cons_none _ _ hf, List.dlookup_cons_ne _ _ hay]
      exact ih (by simpa [List.keys, hay] using hk)

end AList
