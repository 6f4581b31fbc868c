import Mathlib.Data.List.Forall2

/-!
# Computations that may throw

When a computation in `Except` returns normally: one rule for each way of building
it.  Together they turn "this sequence of throwing calls succeeded" into "each call
succeeded, with these results".

`isOk` alone composes as well: `isOk_bind` and `returns_const` compute when a sequence of
calls returns, without its results.
-/

namespace Library

universe u v w

variable {ε ε' : Type u} {α β : Type v}

theorem bind_eq_ok_iff {x : Except ε α} {f : α → Except ε β} {b : β} :
    (x >>= f) = .ok b ↔ ∃ a, x = .ok a ∧ f a = .ok b := by
  cases x with
  | error e => simp [bind, Except.bind]
  | ok a => simp [bind, Except.bind]

theorem pure_eq_ok_iff {a b : α} : (pure a : Except ε α) = .ok b ↔ a = b := by
  simp [pure, Except.pure]

theorem throw_ne_ok {e : ε} {a : α} : (throw e : Except ε α) ≠ .ok a := by
  simp [throw, throwThe, MonadExceptOf.throw]

/-- A check that throws, in front of the rest of a computation. -/
theorem guard_eq_ok_iff {p : Prop} [Decidable p] {e : ε} {rest : PUnit → Except ε β} {b : β} :
    (if p then throw e >>= rest else rest ⟨⟩) = .ok b ↔ ¬ p ∧ rest ⟨⟩ = .ok b := by
  by_cases hp : p
  · rw [if_pos hp]
    constructor
    · intro h
      obtain ⟨a, ha, -⟩ := bind_eq_ok_iff.mp h
      exact absurd ha throw_ne_ok
    · rintro ⟨hnot, -⟩
      exact absurd hp hnot
  · rw [if_neg hp]
    simp [hp]

/-- Renaming the exceptions of a computation does not change when it returns. -/
theorem mapError_eq_ok_iff {x : Except ε α} {f : ε → ε'} {a : α} :
    x.mapError f = .ok a ↔ x = .ok a := by
  cases x with
  | error e =>
      constructor
      · intro h
        cases h
      · intro h
        cases h
  | ok a' =>
      have hkept : (Except.ok a' : Except ε α).mapError f = .ok a' := rfl
      rw [hkept, Except.ok.injEq, Except.ok.injEq]

/-- A computation whose exceptions are all taken as the end of the program. -/
theorem toOption_eq_some_iff {x : Except ε α} {a : α} : x.toOption = some a ↔ x = .ok a := by
  cases x with
  | error e => simp [Except.toOption]
  | ok a' => simp [Except.toOption]

/-- A loop over a list returns exactly when its body returns on every element, and
it then returns the values in order. -/
theorem mapM_eq_ok_iff {γ : Type w} {f : γ → Except ε β} {as : List γ} {bs : List β} :
    as.mapM f = .ok bs ↔ List.Forall₂ (fun a b => f a = .ok b) as bs := by
  induction as generalizing bs with
  | nil =>
      rw [List.mapM_nil, pure_eq_ok_iff, List.forall₂_nil_left_iff]
      exact eq_comm
  | cons a as ih =>
      rw [List.mapM_cons, bind_eq_ok_iff]
      constructor
      · rintro ⟨b, hb, hrest⟩
        obtain ⟨bs', hbs', hcons⟩ := bind_eq_ok_iff.mp hrest
        obtain rfl := pure_eq_ok_iff.mp hcons
        exact List.Forall₂.cons hb (ih.mp hbs')
      · intro hall
        cases hall with
        | cons hb hbs =>
            exact ⟨_, hb, bind_eq_ok_iff.mpr ⟨_, ih.mpr hbs, pure_eq_ok_iff.mpr rfl⟩⟩

/-- An optional step returns when there is nothing to do, or the step returns. -/
theorem optionMapM_eq_ok_iff {γ : Type w} {f : γ → Except ε β} {o : Option γ} {r : Option β} :
    o.mapM f = .ok r ↔ (o = none ∧ r = none) ∨ ∃ a b, o = some a ∧ f a = .ok b ∧ r = some b := by
  cases o with
  | none =>
      change (pure none : Except ε (Option β)) = .ok r ↔ _
      rw [pure_eq_ok_iff, eq_comm]
      simp
  | some a =>
      change (f a >>= fun b => pure (some b)) = .ok r ↔ _
      simp only [bind_eq_ok_iff, pure_eq_ok_iff, eq_comm (b := r)]
      simp

/-! ## Whether a computation returns -/

/-- The computation returns a value with this property. -/
def returns (x : Except ε α) (p : α → Bool) : Bool :=
  match x with
  | .ok a => p a
  | .error _ => false

theorem isOk_bind (x : Except ε α) (f : α → Except ε β) : (x >>= f).isOk = returns x fun a => (f a).isOk := by
  cases x <;> rfl

theorem isOk_pure (a : α) : (pure a : Except ε α).isOk = true := rfl

theorem isOk_map (f : α → β) (x : Except ε α) : (f <$> x).isOk = x.isOk := by
  cases x <;> rfl

/-- A part of a computation whose result does not matter for the rest. -/
theorem returns_const (x : Except ε α) (b : Bool) : (returns x fun _ => b) = (x.isOk && b) := by
  cases x with
  | ok a => exact (Bool.true_and b).symm
  | error e => exact (Bool.false_and b).symm

theorem isOk_mapM {γ : Type w} (f : γ → Except ε β) (as : List γ) :
    (as.mapM f).isOk = as.all fun a => (f a).isOk := by
  induction as with
  | nil => rfl
  | cons a as ih =>
      simp only [List.mapM_cons, isOk_bind, isOk_pure, returns_const, ih, Bool.and_true, List.all_cons]

theorem isOk_optionMapM {γ : Type w} (f : γ → Except ε β) (o : Option γ) :
    (o.mapM f).isOk = o.all fun a => (f a).isOk := by
  cases o with
  | none => rfl
  | some a =>
      show (f a >>= fun b => pure (some b)).isOk = (f a).isOk
      simp only [isOk_bind, isOk_pure, returns_const, Bool.and_true]

end Library
