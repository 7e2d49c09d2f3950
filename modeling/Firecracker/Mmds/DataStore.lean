import Firecracker.Mmds.JsonPatch
import Firecracker.Lib.Run

/-!
# Firecracker.Mmds.DataStore

`Mmds` of `mmds::data_store`: the data store, whether it was initialised, and the limit on its
serialised size. `put_data` replaces the store and `patch_data` merges a patch into a copy of it;
each keeps the new store only if its serialisation fits the limit. The serialisation of
`serde_json::to_vec` enters only through its length, `encodedLen`, and every result here holds
whatever that length is.

`patch_data` is idempotent: a patch that was applied once applies again and leaves the store as it
was (`patchData_patchData`). Over every run of `PUT` and `PATCH` requests the limit stays the one
the store was made with and an initialised store fits it (`reachable_withinLimit`), which is what
`data_store_value` relies on when it returns the store without checking its size.
-/

namespace Firecracker
namespace Mmds

set_option linter.dupNamespace false

/-- `data_store::Error`, of the variants `put_data` and `patch_data` return. -/
inductive Error
  | dataStoreLimitExceeded
  | notInitialized
  deriving DecidableEq, Repr

/-- `Mmds`, without the token authority of MMDS version 2, which no modelled function reads. -/
structure Mmds where
  dataStore : Json
  isInitialized : Bool
  dataStoreLimit : Nat

namespace Mmds

def defaultWithLimit (dataStoreLimit : Nat) : Mmds := ⟨Json.null, false, dataStoreLimit⟩

def checkDataStoreInitialized (m : Mmds) : Except Error Unit :=
  if m.isInitialized then .ok () else .error .notInitialized

section Requests

variable (encodedLen : Value → Nat)

def putData (m : Mmds) (data : Json) : Except Error Mmds :=
  if encodedLen data.1 > m.dataStoreLimit then .error .dataStoreLimitExceeded
  else .ok { m with dataStore := data, isInitialized := true }

/-- `patch_data`: the patch is merged into a clone of the store, which replaces the store if it
fits. -/
def patchData (m : Mmds) (patchData : Json) : Except Error Mmds := do
  m.checkDataStoreInitialized
  let dataStoreClone := m.dataStore.patch patchData
  if encodedLen dataStoreClone.1 > m.dataStoreLimit then .error .dataStoreLimitExceeded
  else .ok { m with dataStore := dataStoreClone }

/-- The requests that change the data store: `PUT` and `PATCH` of the metadata. -/
inductive Request
  | put (data : Json)
  | patch (patch : Json)

/-- A request and the store after it; one that fails is answered with its error and leaves the
store as it was. -/
def step (m : Mmds) (r : Request) : Option Mmds :=
  let result := match r with
    | .put data => m.putData encodedLen data
    | .patch p => m.patchData encodedLen p
  match result with
  | .ok m' => some m'
  | .error _ => some m

/-- The store keeps the limit it was made with, and fits it once initialised. -/
structure WithinLimit (dataStoreLimit : Nat) (m : Mmds) : Prop where
  limit : m.dataStoreLimit = dataStoreLimit
  fits : m.isInitialized = true → encodedLen m.dataStore.1 ≤ dataStoreLimit

variable {encodedLen} {m m' : Mmds}

theorem ite_error_eq_ok {α : Type} {c : Prop} [Decidable c] {e : Error} {x y : α} :
    (if c then Except.error e else .ok x) = .ok y ↔ ¬c ∧ y = x := by
  split
  · rename_i hc
    exact ⟨(fun h => nomatch h), fun h => absurd hc h.1⟩
  · rename_i hc
    exact ⟨fun h => ⟨hc, (Except.ok.inj h).symm⟩, fun h => by rw [h.2]⟩

theorem putData_eq_ok {data : Json} :
    m.putData encodedLen data = .ok m' ↔
      encodedLen data.1 ≤ m.dataStoreLimit ∧ m' = { m with dataStore := data, isInitialized := true } := by
  rw [putData, ite_error_eq_ok, gt_iff_lt, Nat.not_lt]

theorem patchData_of_isInitialized {p : Json} (hinit : m.isInitialized = true) :
    m.patchData encodedLen p =
      if encodedLen (m.dataStore.patch p).1 > m.dataStoreLimit then .error .dataStoreLimitExceeded
      else .ok { m with dataStore := m.dataStore.patch p } := by
  unfold patchData checkDataStoreInitialized
  rw [if_pos hinit]
  rfl

theorem patchData_of_not_isInitialized {p : Json} (hinit : m.isInitialized = false) :
    m.patchData encodedLen p = .error .notInitialized := by
  unfold patchData checkDataStoreInitialized
  rw [if_neg (Bool.eq_false_iff.1 hinit)]
  rfl

theorem patchData_eq_ok {p : Json} :
    m.patchData encodedLen p = .ok m' ↔
      m.isInitialized = true ∧ encodedLen (m.dataStore.patch p).1 ≤ m.dataStoreLimit ∧
        m' = { m with dataStore := m.dataStore.patch p } := by
  by_cases hinit : m.isInitialized = true
  · rw [patchData_of_isInitialized hinit, ite_error_eq_ok, gt_iff_lt, Nat.not_lt]
    exact (and_iff_right hinit).symm
  · rw [patchData_of_not_isInitialized (Bool.eq_false_iff.2 hinit)]
    exact ⟨(fun h => nomatch h), fun h => absurd h.1 hinit⟩

/-- **`patch_data` is idempotent.** After a patch succeeds, the same patch succeeds again and
leaves the store as the first left it: merging the patch again changes nothing, so the store
still fits the limit it fitted. -/
theorem patchData_patchData {p : Json} (h : m.patchData encodedLen p = .ok m') :
    m'.patchData encodedLen p = .ok m' := by
  obtain ⟨hinit, hfits, rfl⟩ := patchData_eq_ok.1 h
  have hsame := Json.patch_patch m.dataStore p
  exact patchData_eq_ok.2 ⟨hinit, by rwa [hsame], by rw [hsame]⟩

/-! ### Runs of requests -/

theorem step_cases {r : Request} (h : step encodedLen m r = some m') :
    m' = m ∨
      (∃ data : Json, encodedLen data.1 ≤ m.dataStoreLimit ∧
        m' = { m with dataStore := data, isInitialized := true }) ∨
      (∃ p : Json, m.isInitialized = true ∧ encodedLen (m.dataStore.patch p).1 ≤ m.dataStoreLimit ∧
        m' = { m with dataStore := m.dataStore.patch p }) := by
  simp only [step] at h
  split at h
  · rename_i m'' hres
    cases h
    cases r with
    | put data => exact .inr (.inl ⟨data, putData_eq_ok.1 hres⟩)
    | patch p => exact .inr (.inr ⟨p, patchData_eq_ok.1 hres⟩)
  · cases h
    exact .inl rfl

theorem step_withinLimit {limit : Nat} {r : Request} (hi : WithinLimit encodedLen limit m)
    (h : step encodedLen m r = some m') : WithinLimit encodedLen limit m' := by
  rcases step_cases h with rfl | ⟨data, hfits, rfl⟩ | ⟨p, -, hfits, rfl⟩
  · exact hi
  · exact ⟨hi.limit, fun _ => hi.limit ▸ hfits⟩
  · exact ⟨hi.limit, fun _ => hi.limit ▸ hfits⟩

/-- **An initialised store always fits its limit.** From `default_with_limit`, through any run of
`PUT` and `PATCH` requests, the limit stays the one the store was made with and an initialised
store serialises to at most that many bytes. -/
theorem reachable_withinLimit {limit : Nat} {m : Mmds}
    (h : Run.Reachable (step encodedLen) (· = defaultWithLimit limit) m) :
    WithinLimit encodedLen limit m :=
  Run.Reachable.inv (I := WithinLimit encodedLen limit)
    (fun _ _ _ hi hs => step_withinLimit hi hs) (fun _ h0 => by subst h0; exact ⟨rfl, nofun⟩) h

end Requests

/-- **MMDS merge patches are RFC 7396's, and applying one twice is applying it once.** For all
JSON values: `json_patch` meets the equations of RFC 7396's `MergePatch`, and agrees with every
function that meets them; a second application of a patch leaves what the first gave; and a
`patch_data` that succeeds succeeds again with the same patch and leaves the store as it was,
whatever the serialised length and the limit. -/
theorem patchData_mergePatch_idempotent :
    IsMergePatch jsonPatch ∧
      (∀ mp, IsMergePatch mp → ∀ t p : Json, (t.patch p).1 = mp t.1 p.1) ∧
      (∀ t p : Json, (t.patch p).patch p = t.patch p) ∧
      ∀ (encodedLen : Value → Nat) (m m' : Mmds) (p : Json),
        m.patchData encodedLen p = .ok m' → m'.patchData encodedLen p = .ok m' :=
  ⟨isMergePatch_jsonPatch, fun _ h t p => isMergePatch_jsonPatch.unique h t.2 p.2,
    Json.patch_patch, fun _ _ _ _ h => patchData_patchData h⟩

/-- The store `{"a": "x", "b": "y"}` under a limit of 64 bytes, with a serialisation of 20 bytes,
and the patch `{"a": null, "c": "z"}`, which removes one key and adds another: the patch applies,
and applies again to the store it left. -/
theorem patchData_mergePatch_idempotent_removeKey :
    let store : Json := ⟨.object [("a", .string "x"), ("b", .string "y")],
      .object (by unfold SortedMap.Sorted; decide) (by simpa using ⟨.string _, .string _⟩)⟩
    let p : Json := ⟨.object [("a", .null), ("c", .string "z")],
      .object (by unfold SortedMap.Sorted; decide) (by simpa using ⟨.null, .string _⟩)⟩
    ∃ m', (Mmds.mk store true 64).patchData (fun _ => 20) p = .ok m' ∧
      m'.dataStore.1 = .object [("b", .string "y"), ("c", .string "z")] ∧
      m'.patchData (fun _ => 20) p = .ok m' := by
  intro store p
  have hpatch : (Mmds.mk store true 64).patchData (fun _ => 20) p = .ok ⟨store.patch p, true, 64⟩ :=
    rfl
  exact ⟨_, hpatch, rfl, patchData_mergePatch_idempotent.2.2.2 (fun _ => 20) _ _ p hpatch⟩

end Mmds

end Mmds
end Firecracker
