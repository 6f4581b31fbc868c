import Mathlib.Data.List.Count
import Mathlib.Logic.Function.Basic

/-!
# Reference-counted objects

A heap of immutable objects that are owned jointly: `make` puts an object on the heap
for one owner, `copy` adds an owner, and `drop` takes one away and frees the object
with the last of them.  A pointer may outlive the owners it was taken from; reading it
is then undefined, which is what `deref` answers with `none`.

`Owned heap owners` says that the counts are right: each is the number of times its
pointer occurs in `owners`.

* `Owned.make`, `Owned.copy`, `Owned.drop` — the operations keep the counts right.
* `Owned.alive_iff` — an object is alive exactly as long as it has an owner.
* `deref_make_self`, `deref_make_of_ne`, `deref_copy`, `Owned.deref_drop` — no operation
  changes what an owner reads.
-/

namespace Library

/-- Objects with their use counts, and the next free address. -/
structure RcHeap (α : Type*) where
  cell : Nat → Option (Nat × α) := fun _ => none
  fresh : Nat := 0

namespace RcHeap

variable {α : Type*} (heap : RcHeap α) (p q : Nat) (a : α)

/-- Read through a pointer. -/
def deref : Option α := (heap.cell p).map Prod.snd

/-- A new object with one owner. -/
def make : RcHeap α × Nat :=
  ({ cell := Function.update heap.cell heap.fresh (some (1, a)), fresh := heap.fresh + 1 }, heap.fresh)

/-- One owner more. -/
def copy : RcHeap α :=
  { heap with cell := Function.update heap.cell p ((heap.cell p).map fun (n, a) => (n + 1, a)) }

/-- One owner less; the last one frees the object. -/
def drop : RcHeap α :=
  { heap with
    cell := Function.update heap.cell p
      (match heap.cell p with
      | some (n + 2, a) => some (n + 1, a)
      | _ => none) }

/-- Every count is the number of owners, and every owner holds an object. -/
structure Owned (heap : RcHeap α) (owners : List Nat) : Prop where
  counted : ∀ p n a, heap.cell p = some (n, a) → n = owners.count p ∧ 0 < n
  alive : ∀ p ∈ owners, heap.cell p ≠ none
  unused : ∀ p, heap.fresh ≤ p → heap.cell p = none

variable {heap p q a} {owners : List Nat}

theorem owned_empty : Owned ({} : RcHeap α) [] where
  counted := by
    intro p n a h
    cases h
  alive := by simp
  unused := by
    intro p _
    rfl

/-- An object is alive exactly as long as it has an owner. -/
theorem Owned.alive_iff (h : heap.Owned owners) : heap.deref p ≠ none ↔ p ∈ owners := by
  constructor
  · intro hsome
    cases hcell : heap.cell p with
    | none => simp [deref, hcell] at hsome
    | some entry =>
        obtain ⟨hcount, hpos⟩ := h.counted p entry.1 entry.2 hcell
        rw [hcount] at hpos
        exact List.count_pos_iff.mp hpos
  · intro hp hnone
    exact h.alive p hp (Option.map_eq_none_iff.mp hnone)

theorem Owned.lt_fresh (h : heap.Owned owners) (hp : p ∈ owners) : p < heap.fresh := by
  by_contra hge
  exact h.alive p hp (h.unused p (by omega))

/-- The order of the owners does not matter. -/
theorem Owned.of_perm {owners' : List Nat} (h : heap.Owned owners) (hperm : owners.Perm owners') :
    heap.Owned owners' where
  counted := by
    intro p n a hcell
    rw [← hperm.count_eq p]
    exact h.counted p n a hcell
  alive := by
    intro p hp
    exact h.alive p (hperm.mem_iff.mpr hp)
  unused := h.unused

/-! ## A new object -/

theorem deref_make_self : (heap.make a).1.deref (heap.make a).2 = some a := by
  show ((Function.update heap.cell heap.fresh (some (1, a))) heap.fresh).map Prod.snd = some a
  rw [Function.update_self, Option.map_some]

theorem deref_make_of_ne (h : q ≠ heap.fresh) : (heap.make a).1.deref q = heap.deref q := by
  show ((Function.update heap.cell heap.fresh (some (1, a))) q).map Prod.snd = (heap.cell q).map Prod.snd
  rw [Function.update_of_ne h]

theorem Owned.make (h : heap.Owned owners) (a : α) :
    (heap.make a).1.Owned ((heap.make a).2 :: owners) := by
  have hnew : heap.fresh ∉ owners := by
    intro hmem
    have hlt := h.lt_fresh hmem
    omega
  refine ⟨?_, ?_, ?_⟩
  · intro p n b hcell
    change Function.update heap.cell heap.fresh (some (1, a)) p = some (n, b) at hcell
    show n = (heap.fresh :: owners).count p ∧ 0 < n
    by_cases hp : p = heap.fresh
    · subst hp
      rw [Function.update_self] at hcell
      obtain ⟨rfl, rfl⟩ := Prod.mk.inj (Option.some.inj hcell)
      rw [List.count_cons_self, List.count_eq_zero.mpr hnew]
      omega
    · rw [Function.update_of_ne hp] at hcell
      rw [List.count_cons_of_ne (Ne.symm hp)]
      exact h.counted p n b hcell
  · intro p hp
    show Function.update heap.cell heap.fresh (some (1, a)) p ≠ none
    by_cases hfresh : p = heap.fresh
    · subst hfresh
      rw [Function.update_self]
      simp
    · rw [Function.update_of_ne hfresh]
      rcases List.mem_cons.mp hp with hself | howner
      · exact absurd hself hfresh
      · exact h.alive p howner
  · intro p hp
    change heap.fresh + 1 ≤ p at hp
    show Function.update heap.cell heap.fresh (some (1, a)) p = none
    rw [Function.update_of_ne (by omega)]
    exact h.unused p (by omega)

/-! ## One owner more -/

theorem deref_copy : (heap.copy p).deref q = heap.deref q := by
  show (Function.update heap.cell p _ q).map Prod.snd = (heap.cell q).map Prod.snd
  by_cases hq : q = p
  · subst hq
    rw [Function.update_self]
    cases heap.cell q <;> rfl
  · rw [Function.update_of_ne hq]

theorem Owned.copy (h : heap.Owned owners) (hp : p ∈ owners) : (heap.copy p).Owned (p :: owners) := by
  refine ⟨?_, ?_, ?_⟩
  · intro q n b hcell
    change Function.update heap.cell p _ q = some (n, b) at hcell
    by_cases hq : q = p
    · subst hq
      rw [Function.update_self] at hcell
      obtain ⟨⟨m, c⟩, hm, heq⟩ := Option.map_eq_some_iff.mp hcell
      obtain ⟨rfl, rfl⟩ := Prod.mk.inj heq
      obtain ⟨hcount, -⟩ := h.counted q m c hm
      rw [List.count_cons_self, ← hcount]
      exact ⟨rfl, Nat.succ_pos m⟩
    · rw [Function.update_of_ne hq] at hcell
      rw [List.count_cons_of_ne (Ne.symm hq)]
      exact h.counted q n b hcell
  · intro q hq hnone
    have hderef : (heap.copy p).deref q = none := by rw [deref, hnone, Option.map_none]
    rw [deref_copy] at hderef
    rcases List.mem_cons.mp hq with hself | howner
    · rw [hself] at hderef
      exact h.alive_iff.mpr hp hderef
    · exact h.alive_iff.mpr howner hderef
  · intro q hq
    change heap.fresh ≤ q at hq
    have hlt := h.lt_fresh hp
    show Function.update heap.cell p _ q = none
    rw [Function.update_of_ne (by omega)]
    exact h.unused q hq

/-! ## One owner less -/

/-- The other owners read what they read before. -/
theorem Owned.deref_drop (h : heap.Owned (p :: owners)) (hq : q ∈ owners) :
    (heap.drop p).deref q = heap.deref q := by
  show (Function.update heap.cell p _ q).map Prod.snd = (heap.cell q).map Prod.snd
  by_cases hqp : q = p
  · subst hqp
    rw [Function.update_self]
    cases hcell : heap.cell q with
    | none => rfl
    | some entry =>
        obtain ⟨n, b⟩ := entry
        -- there is another owner, so the count is at least two
        obtain ⟨hcount, -⟩ := h.counted q n b hcell
        rw [List.count_cons_self] at hcount
        have hpos : 0 < owners.count q := List.count_pos_iff.mpr hq
        obtain ⟨m, rfl⟩ : ∃ m, n = m + 2 := ⟨n - 2, by omega⟩
        rfl
  · rw [Function.update_of_ne hqp]

theorem Owned.drop (h : heap.Owned (p :: owners)) : (heap.drop p).Owned owners := by
  refine ⟨?_, ?_, ?_⟩
  · intro q n b hcell
    change Function.update heap.cell p _ q = some (n, b) at hcell
    by_cases hq : q = p
    · subst hq
      rw [Function.update_self] at hcell
      split at hcell
      · next m c hm =>
          obtain ⟨rfl, rfl⟩ := Prod.mk.inj (Option.some.inj hcell)
          obtain ⟨hcount, -⟩ := h.counted q (m + 2) c hm
          rw [List.count_cons_self] at hcount
          omega
      · cases hcell
    · rw [Function.update_of_ne hq] at hcell
      have hother := h.counted q n b hcell
      rwa [List.count_cons_of_ne (Ne.symm hq)] at hother
  · intro q hq hnone
    have hderef : (heap.drop p).deref q = none := by rw [deref, hnone, Option.map_none]
    rw [h.deref_drop hq] at hderef
    exact h.alive_iff.mpr (List.mem_cons_of_mem p hq) hderef
  · intro q hq
    change heap.fresh ≤ q at hq
    have hlt := h.lt_fresh List.mem_cons_self
    show Function.update heap.cell p _ q = none
    rw [Function.update_of_ne (by omega)]
    exact h.unused q hq

end RcHeap

end Library
