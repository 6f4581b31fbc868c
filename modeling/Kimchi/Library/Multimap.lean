import Mathlib.Data.List.Basic

/-!
# Ordered multimaps with normalised keys

An ordered list of key/value entries in which a key may occur any number of times
and keys are compared only after a normalisation `norm` (letter case, for instance).
The operations are those of a header table: read all values of a key, read the value
of a key that occurs exactly once, append an entry, drop all entries of a key, and
replace them by one entry.

Every operation is characterised by what `values` reads afterwards at the key it was
given (`_self`) and at every key that normalises differently (`_of_ne`); `without`
is the part of the map outside a list of keys, which the operations on those keys
leave alone (`_of_mem`).
-/

namespace Library

variable {κ κ' ν : Type*} [DecidableEq κ'] (norm : κ → κ')

/-- Entries in insertion order; keys may repeat. -/
abbrev Multimap (κ ν : Type*) := List (κ × ν)

namespace Multimap

variable (m : Multimap κ ν) (k k' : κ) (v : ν)

/-- The entry's key normalises to the same key as `k`. -/
def hasKey (e : κ × ν) : Bool := decide (norm e.1 = norm k)

/-- All values stored under `k`, in insertion order. -/
def values : List ν := (m.filter (hasKey norm k)).map Prod.snd

/-- The value stored under `k`, if there is exactly one. -/
def single : Option ν :=
  match values norm m k with
  | [v] => some v
  | _ => none

/-- Append an entry, keeping the entries `k` already has. -/
def add : Multimap κ ν := m ++ [(k, v)]

/-- Drop every entry of `k`. -/
def remove : Multimap κ ν := m.filter fun e => !hasKey norm k e

/-- Replace all entries of `k` by one entry at the end. -/
def set : Multimap κ ν := add (remove norm m k) k v

/-- The entries whose key is none of `ks`. -/
def without (ks : List κ) : Multimap κ ν := m.filter fun e => !(ks.any fun k => hasKey norm k e)

variable {norm m k k' v}

@[simp] theorem values_nil : values norm ([] : Multimap κ ν) k = [] := rfl

theorem values_cons (e : κ × ν) :
    values norm (e :: m) k = if norm e.1 = norm k then e.2 :: values norm m k else values norm m k := by
  by_cases h : norm e.1 = norm k <;> simp [values, hasKey, h]

theorem values_append (m₁ m₂ : Multimap κ ν) :
    values norm (m₁ ++ m₂) k = values norm m₁ k ++ values norm m₂ k := by
  simp [values]

@[simp] theorem values_add_self : values norm (add m k v) k = values norm m k ++ [v] := by
  simp [add, values_append, values_cons]

theorem values_add_of_ne (h : norm k ≠ norm k') :
    values norm (add m k v) k' = values norm m k' := by
  simp [add, values_append, values_cons, h]

@[simp] theorem values_remove_self : values norm (remove norm m k) k = [] := by
  simp [values, remove, hasKey, List.filter_filter]

/-- Removing a key does not touch the entries of the other keys. -/
theorem values_remove_of_ne (h : norm k ≠ norm k') :
    values norm (remove norm m k) k' = values norm m k' := by
  unfold values remove
  rw [List.filter_filter]
  congr 1
  refine List.filter_congr ?_
  intro e _
  by_cases he : norm e.1 = norm k'
  · simp [hasKey, he, Ne.symm h]
  · simp [hasKey, he]

@[simp] theorem values_set_self : values norm (set norm m k v) k = [v] := by
  simp [set]

theorem values_set_of_ne (h : norm k ≠ norm k') :
    values norm (set norm m k v) k' = values norm m k' := by
  rw [set, values_add_of_ne h, values_remove_of_ne h]

theorem single_eq_some_iff : single norm m k = some v ↔ values norm m k = [v] := by
  unfold single
  split
  · next w hw => simp [hw]
  · next h =>
      constructor
      · intro hnone
        cases hnone
      · intro hv
        exact absurd hv (h v)

/-- Reading a key once depends only on the values stored under it. -/
theorem single_congr {m₁ m₂ : Multimap κ ν} (h : values norm m₁ k = values norm m₂ k) :
    single norm m₁ k = single norm m₂ k := by
  simp [single, h]

/-- Keys outside `ks` read the same in the restriction. -/
theorem values_without_of_not_mem {ks : List κ} (h : ∀ k₁ ∈ ks, norm k₁ ≠ norm k) :
    values norm (without norm m ks) k = values norm m k := by
  unfold values without
  rw [List.filter_filter]
  congr 1
  refine List.filter_congr ?_
  intro e _
  by_cases he : norm e.1 = norm k
  · have hks : (ks.any fun k₁ => hasKey norm k₁ e) = false := by
      rw [List.any_eq_false]
      intro k₁ hk₁
      have hne := h k₁ hk₁
      simp [hasKey, he, Ne.symm hne]
    simp [hks]
  · simp [hasKey, he]

theorem without_append (m₁ m₂ : Multimap κ ν) (ks : List κ) :
    without norm (m₁ ++ m₂) ks = without norm m₁ ks ++ without norm m₂ ks :=
  List.filter_append m₁ m₂

/-- Tables that agree outside some keys agree outside more. -/
theorem without_congr_of_subset {m₁ m₂ : Multimap κ ν} {ks ks' : List κ} (hks : ks ⊆ ks')
    (h : without norm m₁ ks = without norm m₂ ks) : without norm m₁ ks' = without norm m₂ ks' := by
  have hagain (m : Multimap κ ν) : without norm (without norm m ks) ks' = without norm m ks' := by
    unfold without
    rw [List.filter_filter]
    refine List.filter_congr ?_
    intro e _
    cases hmore : ks'.any fun k => hasKey norm k e with
    | true => simp
    | false =>
        have hless : (ks.any fun k => hasKey norm k e) = false := by
          rw [List.any_eq_false] at hmore ⊢
          intro k hk
          exact hmore k (hks hk)
        simp [hless]
  rw [← hagain m₁, h, hagain m₂]

theorem without_remove_of_mem {ks : List κ} (h : k ∈ ks) :
    without norm (remove norm m k) ks = without norm m ks := by
  unfold without remove
  rw [List.filter_filter]
  refine List.filter_congr ?_
  intro e _
  -- an entry outside `ks` is not one of `k`
  by_cases he : hasKey norm k e = true
  · have hks : (ks.any fun k₁ => hasKey norm k₁ e) = true := List.any_eq_true.mpr ⟨k, h, he⟩
    simp [hks]
  · simp [he]

theorem without_set_of_mem {ks : List κ} (h : k ∈ ks) :
    without norm (set norm m k v) ks = without norm m ks := by
  have hnew : without norm [(k, v)] ks = [] := by
    have hks : (ks.any fun k₁ => hasKey norm k₁ (k, v)) = true :=
      List.any_eq_true.mpr ⟨k, h, by simp [hasKey]⟩
    simp [without, hks]
  rw [set, add, without_append, without_remove_of_mem h, hnew, List.append_nil]

end Multimap

end Library
