import Mathlib.Data.List.GetD

/-!
# Firecracker.Lib.NetBytes

Values packed into a byte string in network byte order (big endian): `ntohs` and `ntohl` read a
`u16` and a `u32` at an offset, `htons` and `htonl` write one. A byte string is a
`List (BitVec 8)`; a read past its end sees zero bytes, a write past its end is dropped (the
callers only read and write inside the string).

What the proofs about a packet use: a value written is read back (`ntohs_htons`,
`ntohl_htonl`), a write leaves every byte outside its range (`getD_htons_of_lt`, …) and every
value at a disjoint offset (`ntohs_htons_of_le`, …), and keeps the length.
-/

namespace NetBytes

def ntohs (b : List (BitVec 8)) (i : Nat) : BitVec 16 := b.getD i 0 ++ b.getD (i + 1) 0

def ntohl (b : List (BitVec 8)) (i : Nat) : BitVec 32 := ntohs b i ++ ntohs b (i + 2)

def htons (b : List (BitVec 8)) (i : Nat) (v : BitVec 16) : List (BitVec 8) :=
  (b.set i (v.extractLsb' 8 8)).set (i + 1) (v.extractLsb' 0 8)

def htonl (b : List (BitVec 8)) (i : Nat) (v : BitVec 32) : List (BitVec 8) :=
  htons (htons b i (v.extractLsb' 16 16)) (i + 2) (v.extractLsb' 0 16)

variable {b : List (BitVec 8)} {i j : Nat}

@[simp] theorem length_htons (b : List (BitVec 8)) (i : Nat) (v : BitVec 16) :
    (htons b i v).length = b.length := by
  simp [htons]

@[simp] theorem length_htonl (b : List (BitVec 8)) (i : Nat) (v : BitVec 32) :
    (htonl b i v).length = b.length := by
  simp [htonl]

theorem getD_set_of_ne {x : BitVec 8} (h : j ≠ i) : (b.set i x).getD j 0 = b.getD j 0 := by
  simp [List.getD_eq_getElem?_getD, Ne.symm h]

theorem getD_set_self {x : BitVec 8} (h : i < b.length) : (b.set i x).getD i 0 = x := by
  simp [List.getD_eq_getElem?_getD, h]

theorem getD_htons_of_ne (v : BitVec 16) (h₁ : j ≠ i) (h₂ : j ≠ i + 1) :
    (htons b i v).getD j 0 = b.getD j 0 := by
  rw [htons, getD_set_of_ne h₂, getD_set_of_ne h₁]

theorem ntohs_htons (v : BitVec 16) (h : i + 1 < b.length) : ntohs (htons b i v) i = v := by
  unfold ntohs htons
  rw [getD_set_of_ne (by omega), getD_set_self (by omega),
    getD_set_self (by simp only [List.length_set]; omega)]
  exact @BitVec.extractLsb'_append_extractLsb' 8 8 v

theorem ntohs_htons_of_disjoint (v : BitVec 16) (h : j + 1 < i ∨ i + 1 < j) :
    ntohs (htons b i v) j = ntohs b j := by
  unfold ntohs
  rw [getD_htons_of_ne v (by omega) (by omega), getD_htons_of_ne v (by omega) (by omega)]

theorem getD_htonl_of_lt (v : BitVec 32) (h : j < i ∨ i + 3 < j) :
    (htonl b i v).getD j 0 = b.getD j 0 := by
  rw [htonl, getD_htons_of_ne _ (by omega) (by omega), getD_htons_of_ne _ (by omega) (by omega)]

theorem ntohl_htonl (v : BitVec 32) (h : i + 3 < b.length) : ntohl (htonl b i v) i = v := by
  unfold ntohl htonl
  rw [ntohs_htons _ (by simp only [length_htons]; omega),
    ntohs_htons_of_disjoint _ (by omega), ntohs_htons _ (by omega)]
  exact @BitVec.extractLsb'_append_extractLsb' 16 16 v

theorem ntohs_htonl_of_disjoint (v : BitVec 32) (h : j + 1 < i ∨ i + 3 < j) :
    ntohs (htonl b i v) j = ntohs b j := by
  unfold ntohs
  rw [getD_htonl_of_lt v (by omega), getD_htonl_of_lt v (by omega)]

theorem ntohl_htons_of_disjoint (v : BitVec 16) (h : j + 3 < i ∨ i + 1 < j) :
    ntohl (htons b i v) j = ntohl b j := by
  unfold ntohl
  rw [ntohs_htons_of_disjoint v (by omega), ntohs_htons_of_disjoint v (by omega)]

theorem ntohl_htonl_of_disjoint (v : BitVec 32) (h : j + 3 < i ∨ i + 3 < j) :
    ntohl (htonl b i v) j = ntohl b j := by
  unfold ntohl
  rw [ntohs_htonl_of_disjoint v (by omega), ntohs_htonl_of_disjoint v (by omega)]

theorem ntohs_set_of_ne {x : BitVec 8} (h : j + 1 < i ∨ i < j) : ntohs (b.set i x) j = ntohs b j := by
  unfold ntohs
  rw [getD_set_of_ne (by omega), getD_set_of_ne (by omega)]

theorem ntohl_set_of_ne {x : BitVec 8} (h : j + 3 < i ∨ i < j) : ntohl (b.set i x) j = ntohl b j := by
  unfold ntohl
  rw [ntohs_set_of_ne (by omega), ntohs_set_of_ne (by omega)]

theorem getD_take_append {n : Nat} (rest : List (BitVec 8)) (h : j < n) (hn : n ≤ b.length) :
    (b.take n ++ rest).getD j 0 = b.getD j 0 := by
  rw [List.getD_append _ _ _ _ (by simp only [List.length_take]; omega),
    List.getD_eq_getElem?_getD, List.getElem?_take_of_lt h, ← List.getD_eq_getElem?_getD]

theorem ntohs_take_append {n : Nat} (rest : List (BitVec 8)) (h : j + 1 < n) (hn : n ≤ b.length) :
    ntohs (b.take n ++ rest) j = ntohs b j := by
  unfold ntohs
  rw [getD_take_append rest (by omega) hn, getD_take_append rest h hn]

theorem ntohl_take_append {n : Nat} (rest : List (BitVec 8)) (h : j + 3 < n) (hn : n ≤ b.length) :
    ntohl (b.take n ++ rest) j = ntohl b j := by
  unfold ntohl
  rw [ntohs_take_append rest (by omega) hn, ntohs_take_append rest h hn]

theorem getD_drop_take {m n : Nat} (h : m + j < n) : ((b.take n).drop m).getD j 0 = b.getD (m + j) 0 := by
  simp [List.getD_eq_getElem?_getD, h]

theorem ntohs_drop_take {m n : Nat} (h : m + j + 1 < n) :
    ntohs ((b.take n).drop m) j = ntohs b (m + j) := by
  unfold ntohs
  rw [getD_drop_take (by omega), getD_drop_take (by omega), Nat.add_assoc]

theorem drop_htons_of_lt {n : Nat} (v : BitVec 16) (h : i + 1 < n) : (htons b i v).drop n = b.drop n := by
  rw [htons, List.drop_set_of_lt h, List.drop_set_of_lt (by omega)]

theorem drop_htonl_of_lt {n : Nat} (v : BitVec 32) (h : i + 3 < n) : (htonl b i v).drop n = b.drop n := by
  rw [htonl, drop_htons_of_lt _ h, drop_htons_of_lt _ (by omega)]

theorem set_getD_self (h : i < b.length) : b.set i (b.getD i 0) = b := by
  simp [List.getD_eq_getElem?_getD, h]

theorem htons_ntohs (h : i + 1 < b.length) : htons b i (ntohs b i) = b := by
  unfold htons ntohs
  rw [BitVec.extractLsb'_append_eq_left, BitVec.extractLsb'_append_eq_right, set_getD_self (by omega),
    set_getD_self h]

theorem htonl_ntohl (h : i + 3 < b.length) : htonl b i (ntohl b i) = b := by
  unfold htonl ntohl
  rw [BitVec.extractLsb'_append_eq_left, BitVec.extractLsb'_append_eq_right, htons_ntohs (by omega),
    htons_ntohs h]

theorem take_htons {n : Nat} (v : BitVec 16) : (htons b i v).take n = htons (b.take n) i v := by
  simp only [htons, List.take_set]

theorem take_htonl {n : Nat} (v : BitVec 32) : (htonl b i v).take n = htonl (b.take n) i v := by
  rw [htonl, take_htons, take_htons, htonl]

theorem getD_drop (m : Nat) : (b.drop m).getD j 0 = b.getD (m + j) 0 := by
  simp [List.getD_eq_getElem?_getD]

theorem ntohl_drop (m : Nat) : ntohl (b.drop m) j = ntohl b (m + j) := by
  unfold ntohl ntohs
  simp only [getD_drop, Nat.add_assoc]

theorem getD_take {n : Nat} (h : j < n) : (b.take n).getD j 0 = b.getD j 0 := by
  simp [List.getD_eq_getElem?_getD, h]

theorem ntohs_take {n : Nat} (h : j + 1 < n) : ntohs (b.take n) j = ntohs b j := by
  unfold ntohs
  rw [getD_take (by omega), getD_take h]

theorem ntohl_take {n : Nat} (h : j + 3 < n) : ntohl (b.take n) j = ntohl b j := by
  unfold ntohl
  rw [ntohs_take (by omega), ntohs_take h]

end NetBytes
