import Mathlib.Data.String.Basic
import Firecracker.Lib.SortedMap

/-!
# Firecracker.Mmds.JsonPatch

`json_patch` of `mmds`, which applies a JSON Merge Patch (RFC 7396) to a `serde_json::Value` in
place. An object of `serde_json` is a `BTreeMap<String, Value>` (the crate is built without
`preserve_order`), here the list of its entries with the keys in order (`SortedMap`). A value is
well formed (`Value.WF`) when every object in it, at any depth, has its keys in order; every
value `serde_json` builds is, and they are the `Json` values.

RFC 7396 defines `MergePatch` by recursion on the patch. `IsMergePatch` states those equations of
a function: a patch that is not an object replaces the target, and an object patch gives the
object in which each key is bound as `mergeAt` says, from the target's entry and the patch's.
They determine the function on well-formed values (`IsMergePatch.unique`). `json_patch` meets them
(`isMergePatch_jsonPatch`), and a second application of one patch changes nothing
(`jsonPatch_jsonPatch`).
-/

namespace Firecracker
namespace Mmds

/-- `serde_json::Number`: a `u64`, a negative `i64` or a finite `f64`, by its bits. -/
inductive Number
  | posInt (n : BitVec 64)
  | negInt (n : BitVec 64)
  | float (bits : BitVec 64)
  deriving DecidableEq, Repr

/-- `serde_json::Value`; an object is the list of its entries. -/
inductive Value
  | null
  | bool (b : Bool)
  | number (n : Number)
  | string (s : String)
  | array (vs : List Value)
  | object (entries : List (String × Value))
  deriving Repr

namespace Value

def isNull : Value → Bool
  | .null => true
  | _ => false

def asObject : Value → Option (List (String × Value))
  | .object es => some es
  | _ => none

/-- The entries of an object, and none for any other value: the map `json_patch` patches. -/
def entries (v : Value) : List (String × Value) := v.asObject.getD []

/-- Every object in the value, at any depth, has its keys in order. -/
inductive WF : Value → Prop
  | null : WF .null
  | bool (b : Bool) : WF (.bool b)
  | number (n : Number) : WF (.number n)
  | string (s : String) : WF (.string s)
  | array {vs : List Value} : (∀ v ∈ vs, WF v) → WF (.array vs)
  | object {es : List (String × Value)} : SortedMap.Sorted es → (∀ e ∈ es, WF e.2) →
      WF (.object es)

theorem WF.sorted_entries {v : Value} (h : v.WF) : SortedMap.Sorted v.entries := by
  cases h with
  | object hs _ => exact hs
  | _ => exact List.Pairwise.nil

theorem WF.entries_wf {v : Value} (h : v.WF) : ∀ e ∈ v.entries, e.2.WF := by
  cases h with
  | object _ hv => exact hv
  | _ => intro e he; cases he

theorem WF.getD_get? {v : Value} (h : v.WF) (k : String) :
    ((SortedMap.get? k v.entries).getD .null).WF := by
  cases hk : SortedMap.get? k v.entries with
  | none => exact .null
  | some x => exact h.entries_wf (k, x) (SortedMap.mem_of_get? hk)

end Value

open Value

/-! ### `json_patch` -/

mutual

/-- `json_patch`: an object patch is merged into the entries of the target, or into an empty map
if the target is not an object; any other patch replaces the target. -/
def jsonPatch (target : Value) : Value → Value
  | .object ps => .object (patchEntries target.entries ps)
  | patch => patch

/-- The loop of `json_patch` over the entries of the patch: a `null` removes the key; any other
value is merged into the entry of the key, which `entry(key).or_insert(Value::Null)` makes `null`
if there was none. -/
def patchEntries (doc : List (String × Value)) : List (String × Value) → List (String × Value)
  | [] => doc
  | (key, value) :: rest =>
    patchEntries
      (if value.isNull then SortedMap.remove key doc
        else SortedMap.entryUpdate key .null (fun t => jsonPatch t value) doc) rest

end

/-! ### RFC 7396 -/

/-- The entry RFC 7396's `MergePatch` gives a key, from the target's entry `t` and the patch's
`p`, with `mp` for the recursive call: the target's if the patch has none, none if the patch
binds `null`, and the merge of the two otherwise. -/
def mergeAt (mp : Value → Value → Value) (t p : Option Value) : Option Value :=
  match p with
  | none => t
  | some v => if v.isNull then none else some (mp (t.getD .null) v)

/-- RFC 7396's `MergePatch`, by the equations that define it on well-formed values. -/
structure IsMergePatch (mp : Value → Value → Value) : Prop where
  /-- A patch that is not an object replaces the target. -/
  replace : ∀ t p, t.WF → p.WF → p.asObject = none → mp t p = p
  /-- An object patch gives an object whose keys are in order and bound by `mergeAt`. -/
  merge : ∀ t ps, t.WF → (Value.object ps).WF → ∃ es, mp t (.object ps) = .object es ∧
    SortedMap.Sorted es ∧
      ∀ k, SortedMap.get? k es = mergeAt mp (SortedMap.get? k t.entries) (SortedMap.get? k ps)

section MergeAt

variable {mp mp' : Value → Value → Value} {t p : Option Value}

theorem mergeAt_congr (h : ∀ v, p = some v → mp (t.getD .null) v = mp' (t.getD .null) v) :
    mergeAt mp t p = mergeAt mp' t p := by
  cases p with
  | none => rfl
  | some v =>
    simp only [mergeAt]
    rw [h v rfl]

theorem mergeAt_mergeAt (h : ∀ v, p = some v → mp (mp (t.getD .null) v) v = mp (t.getD .null) v) :
    mergeAt mp (mergeAt mp t p) p = mergeAt mp t p := by
  cases p with
  | none => rfl
  | some v =>
    by_cases hv : v.isNull
    · simp only [mergeAt, hv, if_true]
    · simp only [mergeAt, hv, Bool.false_eq_true, if_false, Option.getD_some]
      rw [h v rfl]

end MergeAt

/-- **The equations of RFC 7396 determine `MergePatch`.** The induction is on the patch; at an
object the two results have their keys in order and the same entries, by induction at each
entry of the patch. -/
theorem IsMergePatch.unique {mp mp' : Value → Value → Value} (h : IsMergePatch mp)
    (h' : IsMergePatch mp') {t p : Value} (ht : t.WF) (hp : p.WF) : mp t p = mp' t p := by
  induction hp generalizing t with
  | object hs hv ih =>
    obtain ⟨es, hes, hsorted, hget⟩ := h.merge t _ ht (.object hs hv)
    obtain ⟨es', hes', hsorted', hget'⟩ := h'.merge t _ ht (.object hs hv)
    rw [hes, hes', SortedMap.ext hsorted hsorted' fun k => ?_]
    rw [hget, hget']
    refine mergeAt_congr fun v hk => ih (k, v) (SortedMap.mem_of_get? hk) (ht.getD_get? k)
  | null => rw [h.replace t _ ht .null rfl, h'.replace t _ ht .null rfl]
  | bool b => rw [h.replace t _ ht (.bool b) rfl, h'.replace t _ ht (.bool b) rfl]
  | number n => rw [h.replace t _ ht (.number n) rfl, h'.replace t _ ht (.number n) rfl]
  | string s => rw [h.replace t _ ht (.string s) rfl, h'.replace t _ ht (.string s) rfl]
  | array hvs => rw [h.replace t _ ht (.array hvs) rfl, h'.replace t _ ht (.array hvs) rfl]

/-! ### `json_patch` meets RFC 7396 -/

theorem jsonPatch_object (target : Value) (ps : List (String × Value)) :
    jsonPatch target (.object ps) = .object (patchEntries target.entries ps) := by
  rw [jsonPatch]

theorem jsonPatch_of_asObject {target patch : Value} (h : patch.asObject = none) :
    jsonPatch target patch = patch := by
  cases patch with
  | object ps => cases h
  | _ => rfl

theorem patchEntries_cons (doc : List (String × Value)) (key : String) (value : Value)
    (rest : List (String × Value)) :
    patchEntries doc ((key, value) :: rest) =
      patchEntries (if value.isNull then SortedMap.remove key doc
        else SortedMap.entryUpdate key .null (fun t => jsonPatch t value) doc) rest := by
  rw [patchEntries]

section PatchEntries

variable {doc ps : List (String × Value)}

theorem sorted_patchEntries (hdoc : SortedMap.Sorted doc) :
    SortedMap.Sorted (patchEntries doc ps) := by
  induction ps generalizing doc with
  | nil => exact hdoc
  | cons e rest ih =>
    obtain ⟨key, value⟩ := e
    rw [patchEntries_cons]
    split
    · exact ih (SortedMap.sorted_remove hdoc)
    · exact ih (SortedMap.sorted_entryUpdate hdoc)

/-- **The loop binds each key as RFC 7396 says.** The keys of the patch are distinct, so each is
met once; the induction is on the patch's entries, and the map the loop has built so far is
generalised. -/
theorem get?_patchEntries (hdoc : SortedMap.Sorted doc) (hps : SortedMap.Sorted ps) (k : String) :
    SortedMap.get? k (patchEntries doc ps) =
      mergeAt jsonPatch (SortedMap.get? k doc) (SortedMap.get? k ps) := by
  induction ps generalizing doc with
  | nil => rfl
  | cons e rest ih =>
    obtain ⟨key, value⟩ := e
    obtain ⟨hhead, htail⟩ := SortedMap.sorted_cons.1 hps
    have hdoc' : SortedMap.Sorted (if value.isNull then SortedMap.remove key doc
        else SortedMap.entryUpdate key .null (fun t => jsonPatch t value) doc) := by
      split
      · exact SortedMap.sorted_remove hdoc
      · exact SortedMap.sorted_entryUpdate hdoc
    rw [patchEntries_cons, ih hdoc' htail, SortedMap.get?_cons]
    by_cases hk : k = key
    · subst hk
      rw [SortedMap.get?_tail_eq_none hps, if_pos rfl]
      by_cases hnull : value.isNull
      · simp only [mergeAt, hnull, if_true, SortedMap.get?_remove_self hdoc]
      · simp only [mergeAt, hnull, Bool.false_eq_true, if_false,
          SortedMap.get?_entryUpdate_self hdoc]
    · rw [if_neg hk]
      split
      · rw [SortedMap.get?_remove_of_ne hk]
      · rw [SortedMap.get?_entryUpdate_of_ne hk]

theorem forall_patchEntries_wf (hdoc : ∀ e ∈ doc, e.2.WF)
    (hps : ∀ e ∈ ps, ∀ t : Value, t.WF → (jsonPatch t e.2).WF) :
    ∀ e ∈ patchEntries doc ps, e.2.WF := by
  induction ps generalizing doc with
  | nil => exact hdoc
  | cons e rest ih =>
    obtain ⟨key, value⟩ := e
    rw [patchEntries_cons]
    refine ih ?_ fun e he => hps e (List.mem_cons_of_mem _ he)
    split
    · exact fun e he => hdoc e ((SortedMap.remove_sublist key doc).subset he)
    · exact SortedMap.forall_entryUpdate Value.WF hdoc .null (hps _ List.mem_cons_self)

end PatchEntries

/-- **`json_patch` keeps values well formed.** The induction is on the patch. -/
theorem jsonPatch_wf {t p : Value} (ht : t.WF) (hp : p.WF) : (jsonPatch t p).WF := by
  induction hp generalizing t with
  | object hs hv ih =>
    rw [jsonPatch_object]
    exact .object (sorted_patchEntries ht.sorted_entries)
      (forall_patchEntries_wf ht.entries_wf fun e he _ ht' => ih e he ht')
  | null => exact .null
  | bool b => exact .bool b
  | number n => exact .number n
  | string s => exact .string s
  | array hvs => exact .array hvs

/-- **`json_patch` is RFC 7396's `MergePatch`.** -/
theorem isMergePatch_jsonPatch : IsMergePatch jsonPatch where
  replace _ _ _ _ h := jsonPatch_of_asObject h
  merge t ps ht hps := by
    have hsorted : SortedMap.Sorted ps := by
      cases hps with
      | object hs _ => exact hs
    exact ⟨_, jsonPatch_object t ps, sorted_patchEntries ht.sorted_entries,
      get?_patchEntries ht.sorted_entries hsorted⟩

/-- **A second application of one patch changes nothing.** The induction is on the patch: at an
object, each key is bound by merging its entry once more, which by induction changes nothing. -/
theorem jsonPatch_jsonPatch {t p : Value} (ht : t.WF) (hp : p.WF) :
    jsonPatch (jsonPatch t p) p = jsonPatch t p := by
  induction hp generalizing t with
  | object hs hv ih =>
    have hdoc := ht.sorted_entries
    rw [jsonPatch_object, jsonPatch_object, entries, asObject, Option.getD_some]
    refine congrArg _ (SortedMap.ext (sorted_patchEntries (sorted_patchEntries hdoc))
      (sorted_patchEntries hdoc) fun k => ?_)
    rw [get?_patchEntries (sorted_patchEntries hdoc) hs, get?_patchEntries hdoc hs]
    exact mergeAt_mergeAt fun v hk => ih (k, v) (SortedMap.mem_of_get? hk) (ht.getD_get? k)
  | null => rfl
  | bool b => rfl
  | number n => rfl
  | string s => rfl
  | array hvs => rfl

/-- The example of RFC 7396, section 3: a member replaced, one removed from a nested object, and
the others kept. -/
example : jsonPatch
    (.object [("a", .string "b"), ("c", .object [("d", .string "e"), ("f", .string "g")])])
    (.object [("a", .string "z"), ("c", .object [("f", .null)])]) =
      .object [("a", .string "z"), ("c", .object [("d", .string "e")])] := rfl

/-! ### Well-formed values -/

/-- A `serde_json::Value`: a value whose objects have their keys in order. -/
def Json : Type := {v : Value // v.WF}

def Json.patch (target patch : Json) : Json := ⟨jsonPatch target.1 patch.1, jsonPatch_wf target.2 patch.2⟩

theorem Json.patch_val (target patch : Json) : (target.patch patch).1 = jsonPatch target.1 patch.1 :=
  rfl

theorem Json.patch_patch (target patch : Json) : (target.patch patch).patch patch = target.patch patch :=
  Subtype.ext (jsonPatch_jsonPatch target.2 patch.2)

def Json.null : Json := ⟨.null, .null⟩

end Mmds
end Firecracker
