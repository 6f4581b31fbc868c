import Mathlib.Data.List.AList

/-!
# The first hit of a scan, with its position

`FirstHit p l i a` says that `a` stands at position `i` of `l`, satisfies `p` there,
and that nothing before it does.  The predicate sees the position, because what a
program computes for an element may depend on it.

* `FirstHit.unique` — a list has at most one first hit.
* `find?_zipIdx_eq_some_iff`, `head?_filterMap_zipIdx_eq_some_iff` — the scans that
  find it.
* `lookup_foldl_emplace` — a map that is filled with `emplace` holds the value of the first
  element with a key.
* `option_eq_of_agree` — two scans that miss together and agree on their hits have
  the same result.
-/

namespace Library

variable {α β : Type*}

/-- `a`, at position `i` of `l`, is the first element that satisfies `p`. -/
structure FirstHit (p : Nat → α → Prop) (l : List α) (i : Nat) (a : α) : Prop where
  get : l[i]? = some a
  hit : p i a
  before : ∀ k < i, ∀ b, l[k]? = some b → ¬ p k b

variable {p : Nat → α → Prop} {l : List α} {i j : Nat} {a b : α}

theorem FirstHit.mem (h : FirstHit p l i a) : a ∈ l := List.mem_of_getElem? h.get

theorem FirstHit.unique (h : FirstHit p l i a) (h' : FirstHit p l j b) : i = j ∧ a = b := by
  rcases Nat.lt_trichotomy i j with hlt | rfl | hlt
  · exact absurd h.hit (h'.before i hlt a h.get)
  · exact ⟨rfl, Option.some.inj (h.get.symm.trans h'.get)⟩
  · exact absurd h'.hit (h.before j hlt b h'.get)

theorem find?_zipIdx_eq_some_iff {q : α × Nat → Bool} :
    l.zipIdx.find? q = some (a, i) ↔ FirstHit (fun i a => q (a, i) = true) l i a := by
  rw [List.find?_eq_some_iff_getElem]
  constructor
  · rintro ⟨hq, n, hn, hget, hbefore⟩
    rw [List.getElem_zipIdx, Prod.mk.injEq, Nat.zero_add] at hget
    rcases hget with ⟨rfl, rfl⟩
    rw [List.length_zipIdx] at hn
    refine ⟨List.getElem?_eq_getElem hn, hq, ?_⟩
    intro k hk b hb
    have hmiss := hbefore k hk
    rw [List.getElem_zipIdx, Nat.zero_add, (List.getElem?_eq_some_iff.mp hb).2] at hmiss
    simpa using hmiss
  · intro h
    rcases List.getElem?_eq_some_iff.mp h.get with ⟨hi, hget⟩
    refine ⟨h.hit, i, by simpa using hi, ?_, ?_⟩
    · rw [List.getElem_zipIdx, Nat.zero_add, hget]
    · intro k hk
      have hk' : k < l.length := Nat.lt_trans hk hi
      have hmiss := h.before k hk l[k] (List.getElem?_eq_getElem hk')
      rw [List.getElem_zipIdx, Nat.zero_add]
      simpa using hmiss

/-- The first value of a partial function is its value at the first argument where
it has one. -/
theorem findSome?_eq_bind_find? (f : α → Option β) (l : List α) :
    l.findSome? f = (l.find? fun a => (f a).isSome).bind f := by
  induction l with
  | nil => rfl
  | cons a l ih =>
      cases hfa : f a with
      | none => simp [hfa, ih]
      | some b => simp [hfa]

theorem head?_filterMap_zipIdx_eq_some_iff {f : α × Nat → Option β} {b : β} :
    (l.zipIdx.filterMap f).head? = some b ↔
      ∃ i a, FirstHit (fun i a => (f (a, i)).isSome = true) l i a ∧ f (a, i) = some b := by
  rw [List.head?_filterMap, findSome?_eq_bind_find?, Option.bind_eq_some_iff]
  constructor
  · rintro ⟨⟨a, i⟩, hfind, hb⟩
    exact ⟨i, a, find?_zipIdx_eq_some_iff.mp hfind, hb⟩
  · rintro ⟨i, a, hfirst, hb⟩
    exact ⟨(a, i), find?_zipIdx_eq_some_iff.mpr hfirst, hb⟩

/-! ## Maps that keep the first value of a key -/

section Emplace

variable {κ ω : Type*} [DecidableEq κ]

/-- `emplace` of a map: a value that is already there stays. -/
def emplace (m : AList fun _ : κ => ω) (k : κ) (v : ω) : AList fun _ : κ => ω :=
  if (m.lookup k).isSome then m else m.insert k v

theorem lookup_emplace (m : AList fun _ : κ => ω) (k k' : κ) (v : ω) :
    (emplace m k v).lookup k' = (m.lookup k').or (if k = k' then some v else none) := by
  unfold emplace
  by_cases hk : k = k'
  · subst hk
    cases hlookup : m.lookup k with
    | none => simp
    | some old => simp [hlookup]
  · have hne : k' ≠ k := Ne.symm hk
    rw [if_neg hk, Option.or_none]
    split
    · rfl
    · exact AList.lookup_insert_ne hne

/-- Run lemma of a loop that fills a map. -/
theorem lookup_foldl_emplace (key : α → κ) (value : α → ω) (l : List α) (m : AList fun _ : κ => ω) (k : κ) :
    (l.foldl (fun m a => emplace m (key a) (value a)) m).lookup k =
      (m.lookup k).or ((l.find? fun a => key a = k).map value) := by
  induction l generalizing m with
  | nil => simp
  | cons a l ih =>
      rw [List.foldl_cons, ih, lookup_emplace, Option.or_assoc]
      congr 1
      by_cases hk : key a = k
      · simp [hk]
      · simp [hk]

end Emplace

/-- Two optional results are equal if they are absent together and agree when both
are there. -/
theorem option_eq_of_agree {x y : Option α} (hnone : x = none ↔ y = none)
    (hsome : ∀ a b, x = some a → y = some b → a = b) : x = y := by
  cases hx : x with
  | none => exact (hnone.mp hx).symm
  | some a =>
      cases hy : y with
      | none =>
          rw [hnone.mpr hy] at hx
          cases hx
      | some b => rw [hsome a b hx hy]

end Library
