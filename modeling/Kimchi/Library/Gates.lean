import Mathlib.Data.List.Basic

/-!
# Messages that pass a row of gates

A gate either lets a message through, possibly changed, or refuses it with an answer
of its own.  `passes` sends a message through a row of gates; the first refusal ends
the journey.

* `passes_append` — two rows in sequence.
* `passes_invariant` — what every gate preserves, the whole row preserves.
* `passes_eq_error` — a refusal is the refusal of one gate, which every gate before
  it let the message reach.
-/

namespace Library

variable {γ μ ρ : Type*} {gate : γ → μ → Except ρ μ}

/-- The message as it leaves the last gate, or the first refusal. -/
def passes (gate : γ → μ → Except ρ μ) (gates : List γ) (m : μ) : Except ρ μ :=
  gates.foldlM (fun m g => gate g m) m

@[simp] theorem passes_nil (m : μ) : passes gate [] m = .ok m := rfl

theorem passes_cons (g : γ) (gates : List γ) (m : μ) :
    passes gate (g :: gates) m = (gate g m).bind (passes gate gates) := rfl

theorem passes_cons_of_ok {g : γ} {m m' : μ} (h : gate g m = .ok m') (gates : List γ) :
    passes gate (g :: gates) m = passes gate gates m' := by
  rw [passes_cons, h]
  rfl

theorem passes_cons_of_error {g : γ} {m : μ} {r : ρ} (h : gate g m = .error r) (gates : List γ) :
    passes gate (g :: gates) m = .error r := by
  rw [passes_cons, h]
  rfl

theorem passes_append (gs hs : List γ) (m : μ) :
    passes gate (gs ++ hs) m = (passes gate gs m).bind (passes gate hs) := by
  unfold passes
  rw [List.foldlM_append]
  rfl

/-- **Invariant rule.**  A property that no gate of the row destroys survives the
row. -/
theorem passes_invariant {P : μ → Prop} {gates : List γ}
    (hgate : ∀ g ∈ gates, ∀ m m', P m → gate g m = .ok m' → P m')
    {m m' : μ} (hm : P m) (h : passes gate gates m = .ok m') : P m' := by
  induction gates generalizing m with
  | nil =>
      obtain rfl : m = m' := by simpa using h
      exact hm
  | cons g gates ih =>
      cases hg : gate g m with
      | error r =>
          rw [passes_cons_of_error hg] at h
          cases h
      | ok m₁ =>
          rw [passes_cons_of_ok hg] at h
          refine ih ?_ (hgate g (by simp) m m₁ hm hg) h
          intro g' hg'
          exact hgate g' (by simp [hg'])

/-- Where a refusal comes from. -/
theorem passes_eq_error {gates : List γ} {m : μ} {r : ρ} (h : passes gate gates m = .error r) :
    ∃ before g after m', gates = before ++ g :: after ∧ passes gate before m = .ok m' ∧
      gate g m' = .error r := by
  induction gates generalizing m with
  | nil => cases h
  | cons g gates ih =>
      cases hg : gate g m with
      | error r' =>
          rw [passes_cons_of_error hg] at h
          obtain rfl := Except.error.inj h
          exact ⟨[], g, gates, m, rfl, rfl, hg⟩
      | ok m₁ =>
          rw [passes_cons_of_ok hg] at h
          obtain ⟨before, g', after, m', rfl, hbefore, hrefuses⟩ := ih h
          refine ⟨g :: before, g', after, m', rfl, ?_, hrefuses⟩
          rw [passes_cons_of_ok hg]
          exact hbefore

end Library
