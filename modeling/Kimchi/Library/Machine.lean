import Mathlib.Data.List.Basic
import Mathlib.Data.List.Forall2

/-!
# Machines with output, run against an environment that keeps a contract

A `Machine` reads inputs one at a time and emits a list of outputs for each.  Its
environment is not free: `follow next` says which inputs may come in which phase of
a contract, and gives the phase an input list leads to, or nothing when the list
breaks the contract.

* `run_of_fixed` — a state that no input of the list leaves answers each input on
  its own.
* `run_invariant` — **the invariant rule**: a relation between phase, state and the
  outputs so far that every allowed step preserves holds after every allowed run.

A `PartialMachine` may get stuck: a step that has no result is one the program does
not define.

* `PartialMachine.run_of_invariant` — **the progress rule**: if an invariant makes
  every step defined and is kept by it, every run is defined, and its outputs are
  those of its steps one after the other.
-/

namespace Library

/-- A deterministic machine: one step reads an input, changes the state and emits
outputs. -/
structure Machine (σ ι ο : Type*) where
  step : σ → ι → σ × List ο

namespace Machine

variable {σ ι ο φ : Type*} (M : Machine σ ι ο)

/-- Read a list of inputs from left to right: the state reached and everything
emitted. -/
def run : σ → List ι → σ × List ο
  | s, [] => (s, [])
  | s, i :: is =>
      ((run (M.step s i).1 is).1, (M.step s i).2 ++ (run (M.step s i).1 is).2)

/-- Everything emitted by a run. -/
def outputs (s : σ) (is : List ι) : List ο := (M.run s is).2

@[simp] theorem run_nil (s : σ) : M.run s [] = (s, []) := rfl

@[simp] theorem outputs_nil (s : σ) : M.outputs s [] = [] := rfl

theorem run_cons (s : σ) (i : ι) (is : List ι) :
    M.run s (i :: is) =
      ((M.run (M.step s i).1 is).1, (M.step s i).2 ++ (M.run (M.step s i).1 is).2) := rfl

theorem outputs_cons (s : σ) (i : ι) (is : List ι) :
    M.outputs s (i :: is) = (M.step s i).2 ++ M.outputs (M.step s i).1 is := rfl

/-- In a state that no input of the list leaves, every input is answered on its
own. -/
theorem run_of_fixed {s : σ} {is : List ι} {answer : ι → List ο}
    (h : ∀ i ∈ is, M.step s i = (s, answer i)) : M.run s is = (s, is.flatMap answer) := by
  induction is with
  | nil => rfl
  | cons i is ih =>
      have hstep := h i (by simp)
      have hrest := ih fun j hj => h j (by simp [hj])
      simp [run_cons, hstep, hrest]

/-- One input more. -/
theorem run_concat (s : σ) (is : List ι) (i : ι) :
    M.run s (is ++ [i]) =
      ((M.step (M.run s is).1 i).1, (M.run s is).2 ++ (M.step (M.run s is).1 i).2) := by
  induction is generalizing s with
  | nil => simp [run_cons]
  | cons j is ih => simp [run_cons, ih]

end Machine

/-- The phase an input list leads to under a contract, or nothing when the list
breaks the contract. -/
def follow {φ ι : Type*} (next : φ → ι → Option φ) : φ → List ι → Option φ
  | p, [] => some p
  | p, i :: is => (next p i).bind fun p' => follow next p' is

theorem follow_cons_eq_some_iff {φ ι : Type*} {next : φ → ι → Option φ} {p q : φ} {i : ι} {is : List ι} :
    follow next p (i :: is) = some q ↔ ∃ p', next p i = some p' ∧ follow next p' is = some q :=
  Option.bind_eq_some_iff

theorem follow_concat {φ ι : Type*} {next : φ → ι → Option φ} (p : φ) (is : List ι) (i : ι) :
    follow next p (is ++ [i]) = (follow next p is).bind fun q => next q i := by
  induction is generalizing p with
  | nil => cases hnext : next p i <;> simp [follow, hnext]
  | cons j is ih => cases hnext : next p j <;> simp [follow, hnext, ih]

namespace Machine

variable {σ ι ο φ : Type*} {M : Machine σ ι ο} {next : φ → ι → Option φ}

/-- **Invariant rule.**  If every step that the contract allows preserves `R`, then
`R` holds after every run that the contract allows.  `R` relates the phase of the
contract, the state and the outputs so far. -/
theorem run_invariant {R : φ → σ → List ο → Prop}
    (hstep : ∀ p s out i p', R p s out → next p i = some p' →
      R p' (M.step s i).1 (out ++ (M.step s i).2))
    {p p' : φ} {s : σ} {out : List ο} {is : List ι}
    (h : R p s out) (hfollow : follow next p is = some p') :
    R p' (M.run s is).1 (out ++ M.outputs s is) := by
  induction is generalizing p s out with
  | nil =>
      obtain rfl : p = p' := by simpa [follow] using hfollow
      simpa using h
  | cons i is ih =>
      obtain ⟨p₁, hnext, hrest⟩ := follow_cons_eq_some_iff.mp hfollow
      have := ih (hstep p s out i p₁ h hnext) hrest
      simpa [run_cons, outputs_cons, List.append_assoc] using this

end Machine

/-! ## Machines that may get stuck -/

/-- A machine some of whose steps are undefined. -/
structure PartialMachine (σ ι ο : Type*) where
  step : σ → ι → Option (σ × List ο)

namespace PartialMachine

variable {σ ι ο : Type*} (M : PartialMachine σ ι ο)

/-- Read a list of inputs from left to right: the state reached and everything
emitted, or nothing when a step is undefined. -/
def run : σ → List ι → Option (σ × List ο)
  | s, [] => some (s, [])
  | s, i :: is =>
      (M.step s i).bind fun (s', out) => (run s' is).map fun (s'', out') => (s'', out ++ out')

@[simp] theorem run_nil (s : σ) : M.run s [] = some (s, []) := rfl

variable {M} {s s' s'' : σ} {i : ι} {is js : List ι} {out out' : List ο}

theorem run_cons_of_step (hstep : M.step s i = some (s', out)) (hrun : M.run s' is = some (s'', out')) :
    M.run s (i :: is) = some (s'', out ++ out') := by
  simp only [run, hstep, Option.bind_some, hrun, Option.map_some]

/-- The first step of a run and the rest of it. -/
theorem run_cons_eq_some_iff :
    M.run s (i :: is) = some (s'', out) ↔
      ∃ s' out₁ out₂, M.step s i = some (s', out₁) ∧ M.run s' is = some (s'', out₂) ∧ out = out₁ ++ out₂ := by
  simp only [run, Option.bind_eq_some_iff, Option.map_eq_some_iff]
  constructor
  · intro h
    obtain ⟨⟨s', out₁⟩, hstep, ⟨s₂, out₂⟩, hrest, hend⟩ := h
    obtain ⟨rfl, rfl⟩ := Prod.mk.inj hend
    exact ⟨s', out₁, out₂, hstep, hrest, rfl⟩
  · intro h
    obtain ⟨s', out₁, out₂, hstep, hrest, rfl⟩ := h
    exact ⟨(s', out₁), hstep, (s'', out₂), hrest, rfl⟩

/-- Two runs one after the other. -/
theorem run_append (hrun : M.run s is = some (s', out)) (hrun' : M.run s' js = some (s'', out')) :
    M.run s (is ++ js) = some (s'', out ++ out') := by
  induction is generalizing s out with
  | nil =>
      obtain ⟨rfl, rfl⟩ : s = s' ∧ [] = out := by simpa using hrun
      exact hrun'
  | cons i is ih =>
      simp only [run, Option.bind_eq_some_iff, Option.map_eq_some_iff] at hrun
      obtain ⟨⟨s₁, out₁⟩, hstep, ⟨s₂, out₂⟩, hrest, hend⟩ := hrun
      obtain ⟨rfl, rfl⟩ := Prod.mk.inj hend
      rw [List.cons_append, run_cons_of_step hstep (ih hrest), List.append_assoc]

/-- **Progress rule.**  If in every state that keeps `Inv` each of the inputs has a
step that keeps `Inv` and emits what `Emits` says, then the run is defined and emits
such outputs in turn. -/
theorem run_of_invariant {Inv : σ → Prop} {Emits : ι → List ο → Prop}
    (hstep : ∀ s, Inv s → ∀ i ∈ is, ∃ s' out, M.step s i = some (s', out) ∧ Inv s' ∧ Emits i out)
    (h : Inv s) :
    ∃ s' outs, M.run s is = some (s', outs.flatten) ∧ Inv s' ∧ List.Forall₂ Emits is outs := by
  induction is generalizing s with
  | nil => exact ⟨s, [], rfl, h, .nil⟩
  | cons i is ih =>
      obtain ⟨s₁, out, hone, hinv, hemits⟩ := hstep s h i (by simp)
      obtain ⟨s', outs, hrun, hinv', houts⟩ := ih (fun s hs j hj => hstep s hs j (by simp [hj])) hinv
      exact ⟨s', out :: outs, run_cons_of_step hone hrun, hinv', .cons hemits houts⟩

end PartialMachine

end Library
