import Mathlib.Data.List.Infix

/-!
# The first occurrence of a pattern

`findPattern pat s` is the position at which the pattern first occurs in a list.
`SplitsAtFirst pat s before after` says the same without a search: `s` is `before`,
the pattern and `after`, and no other way of splitting it there is shorter in front.

* `findPattern_drop_iff` — what is left behind the pattern the search finds.
* `SplitsAtFirst.append` — a pattern that has occurred keeps its place when more is
  appended.
-/

namespace Library

variable {α : Type*}

/-- The pattern first occurs in `s` between `before` and `after`. -/
structure SplitsAtFirst (pat s before after : List α) : Prop where
  split : s = before ++ (pat ++ after)
  first : ∀ before' after', s = before' ++ (pat ++ after') → before.length ≤ before'.length

section Search

variable [DecidableEq α] {pat s before after : List α}

/-- The position of the first occurrence of a pattern. -/
def findPattern (pat : List α) : List α → Option Nat
  | [] => if pat = [] then some 0 else none
  | a :: s => if pat <+: a :: s then some 0 else (findPattern pat s).map (· + 1)

/-- The search finds an occurrence, and the first one. -/
theorem splitsAtFirst_of_findPattern {pos : Nat} (h : findPattern pat s = some pos) :
    ∃ before after, SplitsAtFirst pat s before after ∧ before.length = pos := by
  induction s generalizing pos with
  | nil =>
      by_cases hpat : pat = []
      · rw [findPattern, if_pos hpat] at h
        obtain rfl := Option.some.inj h
        exact ⟨[], [], ⟨by simp [hpat], fun _ _ _ => Nat.zero_le _⟩, rfl⟩
      · rw [findPattern, if_neg hpat] at h
        cases h
  | cons a s ih =>
      by_cases hprefix : pat <+: a :: s
      · rw [findPattern, if_pos hprefix] at h
        obtain rfl := Option.some.inj h
        obtain ⟨after, hafter⟩ := hprefix
        exact ⟨[], after, ⟨hafter.symm, fun _ _ _ => Nat.zero_le _⟩, rfl⟩
      · rw [findPattern, if_neg hprefix] at h
        obtain ⟨pos', hpos', rfl⟩ := Option.map_eq_some_iff.mp h
        obtain ⟨before, after, hsplits, hlength⟩ := ih hpos'
        refine ⟨a :: before, after, ⟨?_, ?_⟩, ?_⟩
        · rw [hsplits.split, List.cons_append]
        · intro before' after' hsplit
          cases before' with
          | nil => exact absurd ⟨after', hsplit.symm⟩ hprefix
          | cons b before' =>
              have htail := (List.cons.inj hsplit).2
              exact Nat.succ_le_succ (hsplits.first before' after' htail)
        · rw [List.length_cons, hlength]

/-- If the pattern occurs, the search finds its first occurrence. -/
theorem findPattern_of_splitsAtFirst (h : SplitsAtFirst pat s before after) :
    findPattern pat s = some before.length := by
  induction s generalizing before with
  | nil =>
      have hnil := h.split
      simp only [List.nil_eq, List.append_eq_nil_iff] at hnil
      obtain ⟨rfl, rfl, -⟩ := hnil
      rfl
  | cons a s ih =>
      by_cases hprefix : pat <+: a :: s
      · obtain ⟨after', hafter'⟩ := hprefix
        have hshort : before.length ≤ 0 := h.first [] after' hafter'.symm
        rw [findPattern, if_pos ⟨after', hafter'⟩, Nat.le_zero.mp hshort]
      · cases before with
        | nil => exact absurd ⟨after, h.split.symm⟩ hprefix
        | cons b before =>
            obtain ⟨rfl, hsplit⟩ := List.cons.inj h.split
            have htail : SplitsAtFirst pat s before after := by
              refine ⟨hsplit, ?_⟩
              intro before' after' hsplit'
              have hle := h.first (a :: before') after' (by rw [hsplit', List.cons_append])
              exact Nat.le_of_succ_le_succ hle
            rw [findPattern, if_neg hprefix, ih htail]
            rfl

/-- What is left behind the first occurrence. -/
theorem findPattern_drop_iff :
    (∃ pos, findPattern pat s = some pos ∧ s.drop (pos + pat.length) = after) ↔
      ∃ before, SplitsAtFirst pat s before after := by
  have hdrop {before after : List α} (h : SplitsAtFirst pat s before after) :
      s.drop (before.length + pat.length) = after := by
    rw [h.split, ← List.append_assoc, ← List.length_append, List.drop_left]
  constructor
  · rintro ⟨pos, hpos, rfl⟩
    obtain ⟨before, after, hsplits, rfl⟩ := splitsAtFirst_of_findPattern hpos
    exact ⟨before, by rwa [hdrop hsplits]⟩
  · rintro ⟨before, hsplits⟩
    exact ⟨before.length, findPattern_of_splitsAtFirst hsplits, hdrop hsplits⟩

end Search

/-- Appending does not move the first occurrence: an earlier one would have been there
before. -/
theorem SplitsAtFirst.append {pat s before after : List α} (h : SplitsAtFirst pat s before after)
    (rest : List α) : SplitsAtFirst pat (s ++ rest) before (after ++ rest) := by
  refine ⟨by rw [h.split]; simp, ?_⟩
  intro before' after' hsplit
  by_contra hlt
  have hlength : s.length = before.length + (pat.length + after.length) := by
    rw [h.split, List.length_append, List.length_append]
  -- the earlier occurrence ends inside `s`
  have hprefix : before' ++ pat <+: s := by
    refine List.prefix_of_prefix_length_le ?_ (List.prefix_append s rest) ?_
    · exact ⟨after', by rw [List.append_assoc, ← hsplit]⟩
    · rw [List.length_append]
      omega
  obtain ⟨after'', hafter''⟩ := hprefix
  exact hlt (h.first before' after'' (by rw [← hafter'', List.append_assoc]))

end Library
