import Mathlib.Data.List.Basic

/-!
# Programs that may abort

A straight-line program with calls that are seen outside it, each of which returns or
ends the program.  What it has done is a list of actions in their order, whether it ends
or not.

* `mem_actions_bind`, `actions_bind_of_mem` — **the phase rule**: an action of a later
  part of the program happens only after the earlier part has returned, and behind all
  its actions.
-/

namespace Library

variable {ω α β : Type}

/-- What a program has done, and its result unless it has aborted. -/
structure Aborting (ω α : Type) where
  actions : List ω
  result : Option α

namespace Aborting

/-- One action, which returns a value or ends the program. -/
def act (a : ω) (result : Option α) : Aborting ω α := ⟨[a], result⟩

/-- A computation that is not seen outside and may end the program. -/
def attempt (result : Option α) : Aborting ω α := ⟨[], result⟩

instance : Monad (Aborting ω) where
  pure a := ⟨[], some a⟩
  bind x f :=
    match x.result with
    | some a => ⟨x.actions ++ (f a).actions, (f a).result⟩
    | none => ⟨x.actions, none⟩

variable {x : Aborting ω α} {f : α → Aborting ω β} {a : α} {b : β} {w : ω}

theorem bind_of_some (h : x.result = some a) : x >>= f = ⟨x.actions ++ (f a).actions, (f a).result⟩ := by
  show (match x.result with
    | some a => (⟨x.actions ++ (f a).actions, (f a).result⟩ : Aborting ω β)
    | none => ⟨x.actions, none⟩) = _
  rw [h]

theorem bind_of_none (h : x.result = none) : x >>= f = ⟨x.actions, none⟩ := by
  show (match x.result with
    | some a => (⟨x.actions ++ (f a).actions, (f a).result⟩ : Aborting ω β)
    | none => ⟨x.actions, none⟩) = _
  rw [h]

theorem result_bind_eq_some_iff :
    (x >>= f).result = some b ↔ ∃ a, x.result = some a ∧ (f a).result = some b := by
  cases hx : x.result with
  | none => simp [bind_of_none hx]
  | some a => simp [bind_of_some hx]

/-- An action of a program is one of its first part, or of the rest, which is reached
only if the first part returns. -/
theorem mem_actions_bind (h : w ∈ (x >>= f).actions) :
    w ∈ x.actions ∨ ∃ a, x.result = some a ∧ w ∈ (f a).actions := by
  cases hx : x.result with
  | none =>
      rw [bind_of_none hx] at h
      exact Or.inl h
  | some a =>
      rw [bind_of_some hx] at h
      rcases List.mem_append.mp h with hfirst | hrest
      · exact Or.inl hfirst
      · exact Or.inr ⟨a, rfl, hrest⟩

/-- **Phase rule.**  If an action happens that is not of the first part, the first part
has returned, and its actions stand before all others. -/
theorem actions_bind_of_mem (h : w ∈ (x >>= f).actions) (hfirst : w ∉ x.actions) :
    ∃ a, x.result = some a ∧ w ∈ (f a).actions ∧ (x >>= f).actions = x.actions ++ (f a).actions := by
  rcases mem_actions_bind h with hmem | ⟨a, hx, hrest⟩
  · exact absurd hmem hfirst
  · refine ⟨a, hx, hrest, ?_⟩
    rw [bind_of_some hx]

end Aborting

end Library
