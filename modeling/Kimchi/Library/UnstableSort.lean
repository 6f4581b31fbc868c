import Mathlib.Data.List.Sort

/-!
# Sorting without stability

A sort that is only promised to return a permutation of its input in which no later
element precedes an earlier one.  Elements that the comparator does not separate may
come out in any order, so a program that calls such a sort has to be correct for
**every** implementation.  `UnstableSort lt` is the type of these implementations; a
development quantifies over it wherever the program sorts.

* `find?_sort_eq_some` / `find?_sort_eq_none` — the first hit of a scan over the
  sorted list is a hit of the unsorted list that no other hit precedes; a scan that
  misses, misses everywhere.
* `insertion` — one executable implementation, for every strict weak ordering.
* `byKey` — the implementations that order tied elements by a key.
* `exists_find?_sort_eq` — **any** hit that no other hit precedes is the first one
  for some implementation, so what a program does with ties is not determined.
* `TiesAgree.filterMap_sort_eq`, `tiesAgree_of_filterMap_sort_eq` — a program that
  looks at the sorted elements through a partial function sees the same whatever the
  implementation, and in whatever order the elements were given, exactly when tied
  elements look the same.
-/

namespace Library

variable {α : Type*} {lt : α → α → Bool}

/-- An implementation of an unstable sort for the comparator `lt`. -/
structure UnstableSort (lt : α → α → Bool) where
  sort : List α → List α
  perm : ∀ l, (sort l).Perm l
  sorted : ∀ l, (sort l).Pairwise fun a b => lt b a = false

namespace UnstableSort

@[simp] theorem mem_sort (s : UnstableSort lt) {l : List α} {a : α} : a ∈ s.sort l ↔ a ∈ l :=
  (s.perm l).mem_iff

/-- Where a scan of an ordered list stops, every other hit comes later. -/
theorem rel_of_find?_eq_some {R : α → α → Prop} {l : List α} (hl : l.Pairwise R) {p : α → Bool}
    {a b : α} (h : l.find? p = some a) (hb : b ∈ l) (hpb : p b = true) : b = a ∨ R a b := by
  obtain ⟨-, before, after, rfl, hbefore⟩ := List.find?_eq_some_iff_append.mp h
  rcases List.mem_append.mp hb with hb | hb
  · have hmiss := hbefore b hb
    simp [hpb] at hmiss
  · rcases List.mem_cons.mp hb with rfl | hb
    · exact Or.inl rfl
    · exact Or.inr ((List.pairwise_cons.mp (List.pairwise_append.mp hl).2.1).1 b hb)

/-- A scan of the sorted list stops at an element that no other hit precedes. -/
theorem find?_sort_eq_some (s : UnstableSort lt) (hirr : ∀ a, lt a a = false)
    {l : List α} {p : α → Bool} {a : α} (h : (s.sort l).find? p = some a) :
    a ∈ l ∧ p a = true ∧ ∀ b ∈ l, p b = true → lt b a = false := by
  refine ⟨s.mem_sort.mp (List.mem_of_find?_eq_some h), List.find?_some h, ?_⟩
  intro b hb hpb
  rcases rel_of_find?_eq_some (s.sorted l) h (s.mem_sort.mpr hb) hpb with rfl | hba
  · exact hirr b
  · exact hba

theorem find?_sort_eq_none (s : UnstableSort lt) {l : List α} {p : α → Bool} :
    (s.sort l).find? p = none ↔ ∀ a ∈ l, p a = false := by
  simp [List.find?_eq_none]

/-- Insertion sort is one of the implementations, for every strict weak ordering: an
asymmetric comparator whose incomparability is transitive. -/
def insertion (lt : α → α → Bool) (hasymm : ∀ a b, lt a b = true → lt b a = false)
    (htrans : ∀ a b c, lt b a = false → lt c b = false → lt c a = false) : UnstableSort lt where
  sort := List.insertionSort fun a b => lt b a = false
  perm := List.perm_insertionSort _
  sorted := by
    intro l
    have htotal : Std.Total fun a b => lt b a = false := by
      refine ⟨fun a b => ?_⟩
      cases hab : lt a b with
      | false => exact Or.inr rfl
      | true => exact Or.inl (hasymm a b hab)
    have htransitive : IsTrans α fun a b => lt b a = false := ⟨htrans⟩
    exact List.pairwise_insertionSort (fun a b => lt b a = false) l

/-! ## Breaking ties -/

/-- The comparator's order, with tied elements in the order of their keys. -/
def NotAfter (lt : α → α → Bool) (key : α → Nat) (a b : α) : Prop :=
  lt b a = false ∧ (lt a b = false → key a ≤ key b)

instance (key : α → Nat) (a b : α) : Decidable (NotAfter lt key a b) :=
  inferInstanceAs (Decidable (lt b a = false ∧ (lt a b = false → key a ≤ key b)))

variable {key : α → Nat}

theorem notAfter_total (hasymm : ∀ a b, lt a b = true → lt b a = false) (a b : α) :
    NotAfter lt key a b ∨ NotAfter lt key b a := by
  unfold NotAfter
  cases hab : lt a b with
  | true => exact Or.inl ⟨hasymm a b hab, fun h => by cases h⟩
  | false =>
      cases hba : lt b a with
      | true => exact Or.inr ⟨rfl, fun h => by cases h⟩
      | false =>
          rcases Nat.le_total (key a) (key b) with hle | hle
          · exact Or.inl ⟨rfl, fun _ => hle⟩
          · exact Or.inr ⟨rfl, fun _ => hle⟩

/-- If `a` and `c` are tied then so are `a`, `b` and `b`, `c` in between, so the keys
compose. -/
theorem notAfter_trans (htrans : ∀ a b c, lt b a = false → lt c b = false → lt c a = false)
    (a b c : α) (hab : NotAfter lt key a b) (hbc : NotAfter lt key b c) : NotAfter lt key a c := by
  refine ⟨htrans a b c hab.1 hbc.1, ?_⟩
  intro hac
  have hkab : key a ≤ key b := hab.2 (htrans b c a hbc.1 hac)
  have hkbc : key b ≤ key c := hbc.2 (htrans c a b hac hab.1)
  exact Nat.le_trans hkab hkbc

/-- The implementation that orders tied elements by a key. -/
def byKey (lt : α → α → Bool) (hasymm : ∀ a b, lt a b = true → lt b a = false)
    (htrans : ∀ a b c, lt b a = false → lt c b = false → lt c a = false) (key : α → Nat) :
    UnstableSort lt where
  sort := List.insertionSort (NotAfter lt key)
  perm := List.perm_insertionSort _
  sorted := by
    intro l
    have htotal : Std.Total (NotAfter lt key) := ⟨notAfter_total hasymm⟩
    have htransitive : IsTrans α (NotAfter lt key) := ⟨notAfter_trans htrans⟩
    exact (List.pairwise_insertionSort (NotAfter lt key) l).imp fun h => h.1

variable {hasymm : ∀ a b, lt a b = true → lt b a = false}
  {htrans : ∀ a b c, lt b a = false → lt c b = false → lt c a = false}

/-- With ties broken by a key, the first hit has the least key among the hits tied
with it. -/
theorem key_le_of_find?_byKey {l : List α} {p : α → Bool} {a b : α}
    (h : ((byKey lt hasymm htrans key).sort l).find? p = some a) (hb : b ∈ l) (hpb : p b = true)
    (hab : lt a b = false) : key a ≤ key b := by
  have htotal : Std.Total (NotAfter lt key) := ⟨notAfter_total hasymm⟩
  have htransitive : IsTrans α (NotAfter lt key) := ⟨notAfter_trans htrans⟩
  have hsorted : ((byKey lt hasymm htrans key).sort l).Pairwise (NotAfter lt key) :=
    List.pairwise_insertionSort (NotAfter lt key) l
  rcases rel_of_find?_eq_some hsorted h ((mem_sort _).mpr hb) hpb with rfl | hnotAfter
  · exact Nat.le_refl _
  · exact hnotAfter.2 hab

/-- **Ties are free:** every hit that no other hit precedes comes first in some
implementation, the one that prefers it to whatever is tied with it. -/
theorem exists_find?_sort_eq [DecidableEq α] (hasymm : ∀ a b, lt a b = true → lt b a = false)
    (htrans : ∀ a b c, lt b a = false → lt c b = false → lt c a = false)
    {l : List α} {p : α → Bool} {a : α} (ha : a ∈ l) (hpa : p a = true)
    (hmax : ∀ b ∈ l, p b = true → lt b a = false) :
    ∃ s : UnstableSort lt, (s.sort l).find? p = some a := by
  let preferred : UnstableSort lt := byKey lt hasymm htrans fun b => if b = a then 0 else 1
  refine ⟨preferred, ?_⟩
  cases hfind : (preferred.sort l).find? p with
  | none =>
      have hmiss := preferred.find?_sort_eq_none.mp hfind a ha
      simp [hpa] at hmiss
  | some b =>
      have hb : b ∈ l := preferred.mem_sort.mp (List.mem_of_find?_eq_some hfind)
      have hpb : p b = true := List.find?_some hfind
      have hkey := key_le_of_find?_byKey hfind ha hpa (hmax b hb hpb)
      by_contra hne
      have hba : b ≠ a := fun hba => hne (congrArg some hba)
      simp [hba] at hkey

/-! ## Seen through a partial function -/

section View

variable {β : Type*} {f : α → Option β} {l l' : List α}

/-- Tied elements look the same through `f`, as far as they are seen at all. -/
def TiesAgree (lt : α → α → Bool) (f : α → Option β) (l : List α) : Prop :=
  ∀ a ∈ l, ∀ b ∈ l, lt a b = false → lt b a = false → ∀ x y, f a = some x → f b = some y → x = y

theorem append_cons_of_forall_eq {x : β} {xs : List β} (h : ∀ y ∈ xs, y = x) (ys : List β) :
    xs ++ x :: ys = x :: (xs ++ ys) := by
  induction xs with
  | nil => rfl
  | cons y xs ih =>
      obtain rfl : y = x := h y List.mem_cons_self
      rw [List.cons_append, ih fun z hz => h z (List.mem_cons_of_mem y hz), List.cons_append]

/-- Two sorted arrangements of the same elements look the same. -/
theorem filterMap_eq_of_sorted (hl : l.Pairwise fun a b => lt b a = false)
    (hl' : l'.Pairwise fun a b => lt b a = false) (hperm : l.Perm l') (hties : TiesAgree lt f l) :
    l.filterMap f = l'.filterMap f := by
  induction l generalizing l' with
  | nil => rw [List.nil_perm.mp hperm]
  | cons a rest ih =>
      -- take the head out of the other arrangement: what stands before it there is tied with it
      obtain ⟨before, after, rfl⟩ := List.append_of_mem (hperm.mem_iff.mp List.mem_cons_self)
      have hrest : rest.Perm (before ++ after) := (hperm.trans List.perm_middle).cons_inv
      have hsorted : (before ++ after).Pairwise fun a b => lt b a = false :=
        hl'.sublist ((List.sublist_cons_self a after).append_left before)
      have htail : rest.filterMap f = (before ++ after).filterMap f := by
        apply ih hl.of_cons hsorted hrest
        intro b hb c hc
        exact hties b (List.mem_cons_of_mem a hb) c (List.mem_cons_of_mem a hc)
      cases hfa : f a with
      | none =>
          rw [List.filterMap_cons_none hfa, htail, List.filterMap_append, List.filterMap_append,
            List.filterMap_cons_none hfa]
      | some x =>
          have hbefore : ∀ y ∈ before.filterMap f, y = x := by
            intro y hy
            obtain ⟨b, hb, hfb⟩ := List.mem_filterMap.mp hy
            have hbrest : b ∈ rest := hrest.mem_iff.mpr (List.mem_append_left after hb)
            have hab : lt a b = false := (List.pairwise_append.mp hl').2.2 b hb a List.mem_cons_self
            have hba : lt b a = false := (List.pairwise_cons.mp hl).1 b hbrest
            exact (hties a List.mem_cons_self b (List.mem_cons_of_mem a hbrest) hab hba x y hfa hfb).symm
          rw [List.filterMap_cons_some hfa, htail, List.filterMap_append, List.filterMap_append,
            List.filterMap_cons_some hfa, append_cons_of_forall_eq hbefore]

/-- The first element seen among those tied with `a` is seen at the position that
counts the elements before all of them. -/
theorem getElem?_filterMap_of_find? (hirr : ∀ a, lt a a = false) {a : α}
    (hl : l.Pairwise fun a b => lt b a = false)
    (h : l.find? (fun e => (f e).isSome && (!lt e a && !lt a e)) = some a) :
    (l.filterMap f)[l.countP fun e => (f e).isSome && lt e a]? = f a := by
  obtain ⟨ha, before, after, rfl, hmiss⟩ := List.find?_eq_some_iff_append.mp h
  obtain ⟨x, hx⟩ : ∃ x, f a = some x := Option.isSome_iff_exists.mp (Bool.and_eq_true_iff.mp ha).1
  obtain ⟨-, hafter, hcross⟩ := List.pairwise_append.mp hl
  have hcountBefore : before.countP (fun e => (f e).isSome && lt e a) = (before.filterMap f).length := by
    rw [List.length_filterMap_eq_countP]
    apply List.countP_congr
    intro e he
    have hae : lt a e = false := hcross e he a List.mem_cons_self
    have hnot := hmiss e he
    simp only [hae, Bool.not_false, Bool.and_true, Bool.not_and, Bool.not_not, Bool.or_eq_true,
      Bool.not_eq_true'] at hnot
    rw [Bool.and_eq_true_iff]
    constructor
    · exact And.left
    · intro hsome
      refine ⟨hsome, hnot.resolve_left ?_⟩
      rw [hsome]
      exact Bool.noConfusion
  have hcountAfter : (a :: after).countP (fun e => (f e).isSome && lt e a) = 0 := by
    rw [List.countP_eq_zero]
    intro e he
    have hea : lt e a = false := by
      rcases List.mem_cons.mp he with rfl | he
      · exact hirr e
      · exact (List.pairwise_cons.mp hafter).1 e he
    simp [hea]
  rw [List.countP_append, hcountBefore, hcountAfter, List.filterMap_append, List.filterMap_cons_some hx,
    Nat.add_zero, List.getElem?_append_right (Nat.le_refl _), Nat.sub_self, List.getElem?_cons_zero, hx]

/-- If tied elements look the same, neither the implementation nor the order in which
the elements are given can be seen. -/
theorem TiesAgree.filterMap_sort_eq (hties : TiesAgree lt f l) (hperm : l'.Perm l)
    (s s' : UnstableSort lt) : (s.sort l).filterMap f = (s'.sort l').filterMap f := by
  apply filterMap_eq_of_sorted (s.sorted l) (s'.sorted l')
  · exact (s.perm l).trans (hperm.symm.trans (s'.perm l').symm)
  · intro a ha b hb
    exact hties a (s.mem_sort.mp ha) b (s.mem_sort.mp hb)

/-- **If the implementation cannot be seen, tied elements look the same:** of two tied
elements, one implementation puts the one first and another the other, and they are
then seen at the same position. -/
theorem tiesAgree_of_filterMap_sort_eq [DecidableEq α] (hasymm : ∀ a b, lt a b = true → lt b a = false)
    (htrans : ∀ a b c, lt b a = false → lt c b = false → lt c a = false)
    (hsame : ∀ s s' : UnstableSort lt, (s.sort l).filterMap f = (s'.sort l).filterMap f) :
    TiesAgree lt f l := by
  have hirr (a : α) : lt a a = false := by
    by_contra h
    have hlt : lt a a = true := by simpa using h
    rw [hasymm a a hlt] at hlt
    cases hlt
  intro a ha b hb hab hba x y hx hy
  have hfirst {c : α} {z : β} (hc : c ∈ l) (hz : f c = some z) :
      ∃ s : UnstableSort lt,
        (s.sort l).find? (fun e => (f e).isSome && (!lt e c && !lt c e)) = some c := by
    apply exists_find?_sort_eq hasymm htrans hc
    · simp [hz, hirr c]
    · intro e _ he
      simp only [Bool.and_eq_true, Bool.not_eq_true'] at he
      exact he.2.1
  obtain ⟨s, hs⟩ := hfirst ha hx
  obtain ⟨s', hs'⟩ := hfirst hb hy
  have hseen := getElem?_filterMap_of_find? hirr (s.sorted l) hs
  have hseen' := getElem?_filterMap_of_find? hirr (s'.sorted l) hs'
  -- the same elements come before the one and before the other
  have hlt (e : α) : lt e a = lt e b := by
    apply Bool.eq_iff_iff.mpr
    constructor
    · intro hea
      by_contra heb
      rw [htrans a b e hba (by simpa using heb)] at hea
      cases hea
    · intro heb
      by_contra hea
      rw [htrans b a e hab (by simpa using hea)] at heb
      cases heb
  have hcount : (s.sort l).countP (fun e => (f e).isSome && lt e a) =
      (s'.sort l).countP (fun e => (f e).isSome && lt e b) := by
    simp only [hlt]
    exact ((s.perm l).trans (s'.perm l).symm).countP_eq _
  rw [hcount, hsame s s', hseen', hx, hy] at hseen
  exact (Option.some.inj hseen).symm

end View

end UnstableSort

end Library
