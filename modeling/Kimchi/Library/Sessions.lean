import Mathlib.Data.List.Induction
import Mathlib.Logic.Function.Basic

/-!
# Many sessions over one shared state

A server runs any number of sessions at once.  A step is one input of one session: it
may read and change the shared state, and changes the state of that session alone.
The inputs of different sessions come in any interleaving.

`solo` runs a single session against the shared states it happens to meet.

* `run_projects` — **the projection rule**: whatever the interleaving, a session goes
  through a solo run on its own inputs.
* `run_trace` — **the history rule**: what every step extends of the inputs, states and
  outputs so far.
* `run_select` — **the selection rule**: sessions can be left out of a run if what they
  do to the shared state does not influence the others; `run_alone` is the case of a
  single session that the shared state does not influence.
* `solo_trace` — **the trace rule**: what every step of a session extends; with the
  projection rule this is `run_session`, **the session rule**.
* `run_rel` — **the simulation rule**: two servers whose steps are related have related
  runs, with the same outputs, and one is undefined where the other is.
-/

namespace Library

variable {κ σ π ι ο : Type*}

/-- One step of a session: its input, on the shared state and on the state of the
session; undefined where the program is. -/
structure Sessions (σ π ι ο : Type*) where
  step : σ → π → ι → Option (σ × π × List ο)

/-- The inputs of one session in an interleaving. -/
def inputsOf [DecidableEq κ] (k : κ) (evs : List (κ × ι)) : List ι :=
  evs.filterMap fun ev => if ev.1 = k then some ev.2 else none

section InputsOf

variable [DecidableEq κ] {k k' : κ}

@[simp] theorem inputsOf_nil : inputsOf k ([] : List (κ × ι)) = [] := rfl

theorem inputsOf_cons_self (i : ι) (evs : List (κ × ι)) : inputsOf k ((k, i) :: evs) = i :: inputsOf k evs := by
  simp [inputsOf]

theorem inputsOf_cons_of_ne (h : k' ≠ k) (i : ι) (evs : List (κ × ι)) :
    inputsOf k ((k', i) :: evs) = inputsOf k evs := by
  simp [inputsOf, h]

theorem inputsOf_append (evs evs' : List (κ × ι)) : inputsOf k (evs ++ evs') = inputsOf k evs ++ inputsOf k evs' :=
  List.filterMap_append

theorem inputsOf_map_self (is : List ι) : inputsOf k (is.map (Prod.mk k)) = is := by
  induction is with
  | nil => rfl
  | cons i is ih => rw [List.map_cons, inputsOf_cons_self, ih]

theorem inputsOf_map_of_ne (h : k' ≠ k) (is : List ι) : inputsOf k (is.map (Prod.mk k')) = [] := by
  induction is with
  | nil => rfl
  | cons i is ih => rw [List.map_cons, inputsOf_cons_of_ne h, ih]

theorem filter_eq_map_inputsOf (k : κ) (evs : List (κ × ι)) :
    (evs.filter fun ev => decide (ev.1 = k)) = (inputsOf k evs).map (Prod.mk k) := by
  induction evs with
  | nil => rfl
  | cons ev evs ih =>
      obtain ⟨k', i⟩ := ev
      by_cases hk : k' = k
      · subst hk
        rw [List.filter_cons_of_pos (by simp), ih, inputsOf_cons_self, List.map_cons]
      · rw [List.filter_cons_of_neg (by simpa using hk), ih, inputsOf_cons_of_ne hk]

end InputsOf

/-- The outputs of one step are all kept or all left out. -/
theorem filter_map_mk (P : κ → Bool) (k : κ) (out : List ο) :
    ((out.map (Prod.mk k)).filter fun o => P o.1) = if P k then out.map (Prod.mk k) else [] := by
  cases hk : P k with
  | true =>
      rw [if_pos rfl, List.filter_eq_self]
      intro o ho
      obtain ⟨-, -, rfl⟩ := List.mem_map.mp ho
      exact hk
  | false =>
      rw [if_neg Bool.false_ne_true, List.filter_eq_nil_iff]
      intro o ho
      obtain ⟨-, -, rfl⟩ := List.mem_map.mp ho
      simp [hk]

theorem optionRel_eq_none_iff {α β : Type*} {R : α → β → Prop} {x : Option α} {y : Option β} (h : Option.Rel R x y) :
    x = none ↔ y = none := by
  cases h <;> simp

/-- What related results agree on. -/
theorem optionRel_map_eq {α β γ : Type*} {R : α → β → Prop} {x : Option α} {y : Option β} {f : α → γ} {g : β → γ}
    (h : Option.Rel R x y) (hfg : ∀ a b, R a b → f a = g b) : x.map f = y.map g := by
  cases h with
  | none => rfl
  | some hab => rw [Option.map_some, Option.map_some, hfg _ _ hab]

/-- Related results lead to related results. -/
theorem optionRel_bind {α β γ δ : Type*} {R : α → β → Prop} {Q : γ → δ → Prop} {x : Option α} {y : Option β}
    {f : α → Option γ} {g : β → Option δ} (h : Option.Rel R x y) (hfg : ∀ a b, R a b → Option.Rel Q (f a) (g b)) :
    Option.Rel Q (x.bind f) (y.bind g) := by
  cases h with
  | none => exact .none
  | some hab => exact hfg _ _ hab

theorem optionRel_map {α β γ δ : Type*} {R : α → β → Prop} {Q : γ → δ → Prop} {x : Option α} {y : Option β}
    {f : α → γ} {g : β → δ} (h : Option.Rel R x y) (hfg : ∀ a b, R a b → Q (f a) (g b)) :
    Option.Rel Q (x.map f) (y.map g) := by
  cases h with
  | none => exact .none
  | some hab => exact .some (hfg _ _ hab)

namespace Sessions

variable (S : Sessions σ π ι ο)

/-- An interleaving, from left to right: the states reached and the outputs, each with
the session it belongs to. -/
def run [DecidableEq κ] : σ × (κ → π) → List (κ × ι) → Option ((σ × (κ → π)) × List (κ × ο))
  | st, [] => some (st, [])
  | st, (k, i) :: evs =>
      (S.step st.1 (st.2 k) i).bind fun (s', p', out) =>
        (run (s', Function.update st.2 k p') evs).map fun (st', outs) => (st', out.map (Prod.mk k) ++ outs)

/-- One session by itself, against a given shared state at each of its inputs. -/
def solo : π → List (σ × ι) → Option (π × List ο)
  | p, [] => some (p, [])
  | p, (s, i) :: rest =>
      (S.step s p i).bind fun (_, p', out) => (solo p' rest).map fun (p'', outs) => (p'', out ++ outs)

variable {S}

theorem solo_cons_of_step {s s' : σ} {p p' p'' : π} {i : ι} {rest : List (σ × ι)} {out outs : List ο}
    (hstep : S.step s p i = some (s', p', out)) (hrest : S.solo p' rest = some (p'', outs)) :
    S.solo p ((s, i) :: rest) = some (p'', out ++ outs) := by
  simp only [solo, hstep, Option.bind_some, hrest, Option.map_some]

/-- **Trace rule.**  A relation between what a session has met, its state and its
outputs that every step extends holds after every solo run. -/
theorem solo_trace {T : List (σ × ι) → π → List ο → Prop}
    (hstep : ∀ met p outs s i s' p' out, T met p outs → S.step s p i = some (s', p', out) →
      T (met ++ [(s, i)]) p' (outs ++ out))
    {met₀ met : List (σ × ι)} {p p' : π} {outs₀ outs : List ο} (h : T met₀ p outs₀)
    (hrun : S.solo p met = some (p', outs)) : T (met₀ ++ met) p' (outs₀ ++ outs) := by
  induction met generalizing met₀ p outs₀ outs with
  | nil =>
      obtain ⟨rfl, rfl⟩ := Prod.mk.inj (Option.some.inj hrun)
      simpa using h
  | cons m met ih =>
      simp only [solo, Option.bind_eq_some_iff, Option.map_eq_some_iff] at hrun
      obtain ⟨⟨s₁, p₁, out⟩, hone, ⟨p₂, outs₁⟩, hrest, hend⟩ := hrun
      obtain ⟨rfl, rfl⟩ := Prod.mk.inj hend
      have htrace := ih (hstep _ _ _ _ _ _ _ _ h hone) hrest
      rw [List.append_assoc, List.append_assoc] at htrace
      exact htrace

section Run

variable [DecidableEq κ] {st st' : σ × (κ → π)} {evs : List (κ × ι)} {outs : List (κ × ο)}

/-- The first step of a run and the rest of it. -/
theorem run_cons_eq_some_iff {k : κ} {i : ι} :
    S.run st ((k, i) :: evs) = some (st', outs) ↔
      ∃ s₁ p₁ out outs₁, S.step st.1 (st.2 k) i = some (s₁, p₁, out) ∧
        S.run (s₁, Function.update st.2 k p₁) evs = some (st', outs₁) ∧
        outs = out.map (Prod.mk k) ++ outs₁ := by
  simp only [run, Option.bind_eq_some_iff, Option.map_eq_some_iff]
  constructor
  · intro h
    obtain ⟨⟨s₁, p₁, out⟩, hstep, ⟨st₁, outs₁⟩, hrest, hend⟩ := h
    obtain ⟨rfl, rfl⟩ := Prod.mk.inj hend
    exact ⟨s₁, p₁, out, outs₁, hstep, hrest, rfl⟩
  · intro h
    obtain ⟨s₁, p₁, out, outs₁, hstep, hrest, rfl⟩ := h
    exact ⟨(s₁, p₁, out), hstep, (st', outs₁), hrest, rfl⟩

/-- A run in two parts. -/
theorem run_append_eq_some_iff {evs' : List (κ × ι)} :
    S.run st (evs ++ evs') = some (st', outs) ↔
      ∃ st₁ outs₁ outs₂, S.run st evs = some (st₁, outs₁) ∧ S.run st₁ evs' = some (st', outs₂) ∧
        outs = outs₁ ++ outs₂ := by
  induction evs generalizing st outs with
  | nil => simp [run]
  | cons ev evs ih =>
      obtain ⟨k, i⟩ := ev
      rw [List.cons_append, run_cons_eq_some_iff]
      constructor
      · intro h
        obtain ⟨s₁, p₁, out, outs', hstep, hrest, rfl⟩ := h
        obtain ⟨st₁, outs₁, outs₂, hfirst, hsecond, rfl⟩ := ih.mp hrest
        refine ⟨st₁, out.map (Prod.mk k) ++ outs₁, outs₂, ?_, hsecond, (List.append_assoc _ _ _).symm⟩
        exact run_cons_eq_some_iff.mpr ⟨s₁, p₁, out, outs₁, hstep, hfirst, rfl⟩
      · intro h
        obtain ⟨st₁, outs₁, outs₂, hfirst, hsecond, rfl⟩ := h
        obtain ⟨s₁, p₁, out, outs', hstep, hrest, rfl⟩ := run_cons_eq_some_iff.mp hfirst
        refine ⟨s₁, p₁, out, outs' ++ outs₂, hstep, ?_, List.append_assoc _ _ _⟩
        exact ih.mpr ⟨st₁, outs', outs₂, hrest, hsecond, rfl⟩

/-- **History rule.**  A relation between the inputs, the states and the outputs so far
that every step of a run extends holds after every run. -/
theorem run_trace {T : List (κ × ι) → σ × (κ → π) → List (κ × ο) → Prop}
    (hstep : ∀ evs st₁ outs k i s' p' out, S.run st evs = some (st₁, outs) → T evs st₁ outs →
      S.step st₁.1 (st₁.2 k) i = some (s', p', out) →
      T (evs ++ [(k, i)]) (s', Function.update st₁.2 k p') (outs ++ out.map (Prod.mk k)))
    (h : T [] st []) (hrun : S.run st evs = some (st', outs)) : T evs st' outs := by
  -- on the number of steps: the last one extends what holds before it
  induction evs using List.reverseRecOn generalizing st' outs with
  | nil =>
      obtain ⟨rfl, rfl⟩ := Prod.mk.inj (Option.some.inj hrun)
      exact h
  | append_singleton evs ev ih =>
      obtain ⟨st₁, outs₁, outs₂, hbefore, hone, rfl⟩ := run_append_eq_some_iff.mp hrun
      obtain ⟨s', p', out, outs₃, hstep₁, hnil, rfl⟩ := run_cons_eq_some_iff.mp hone
      obtain ⟨rfl, rfl⟩ := Prod.mk.inj (Option.some.inj hnil)
      rw [List.append_nil]
      exact hstep _ _ _ _ _ _ _ _ hbefore (ih hbefore) hstep₁

/-- **Projection rule.**  In every run a session goes through a solo run on its own
inputs, with its own outputs. -/
theorem run_projects (hrun : S.run st evs = some (st', outs)) (k : κ) :
    ∃ met : List (σ × ι), met.map Prod.snd = inputsOf k evs ∧
      S.solo (st.2 k) met = some (st'.2 k, inputsOf k outs) := by
  induction evs generalizing st outs with
  | nil =>
      obtain ⟨rfl, rfl⟩ := Prod.mk.inj (Option.some.inj hrun)
      exact ⟨[], rfl, rfl⟩
  | cons ev evs ih =>
      obtain ⟨k', i⟩ := ev
      obtain ⟨s₁, p₁, out, outs₁, hone, hrest, rfl⟩ := run_cons_eq_some_iff.mp hrun
      obtain ⟨met, hinputs, hsolo⟩ := ih hrest
      by_cases hk : k' = k
      · -- the session's own step comes first in its solo run
        subst hk
        refine ⟨(st.1, i) :: met, ?_, ?_⟩
        · rw [List.map_cons, hinputs, inputsOf_cons_self]
        · rw [inputsOf_append, inputsOf_map_self]
          change S.solo (Function.update st.2 k' p₁ k') met = _ at hsolo
          rw [Function.update_self] at hsolo
          exact solo_cons_of_step hone hsolo
      · refine ⟨met, ?_, ?_⟩
        · rw [hinputs, inputsOf_cons_of_ne hk]
        · rw [inputsOf_append, inputsOf_map_of_ne hk, List.nil_append]
          change S.solo (Function.update st.2 k' p₁ k) met = _ at hsolo
          rw [Function.update_of_ne (Ne.symm hk)] at hsolo
          exact hsolo

/-- **Session rule.**  A relation between the inputs of a session, its state and its
outputs that every step extends holds after every run. -/
theorem run_session (T : List ι → π → List ο → Prop)
    (hstep : ∀ is p outs s i s' p' out, T is p outs → S.step s p i = some (s', p', out) →
      T (is ++ [i]) p' (outs ++ out))
    {k : κ} {is : List ι} (before : List ο) (h : T is (st.2 k) before) (hrun : S.run st evs = some (st', outs)) :
    T (is ++ inputsOf k evs) (st'.2 k) (before ++ inputsOf k outs) := by
  obtain ⟨met, hinputs, hsolo⟩ := run_projects hrun k
  -- the trace rule, for a relation that forgets the shared states
  let T' : List (σ × ι) → π → List ο → Prop := fun met => T (is ++ met.map Prod.snd)
  have hstep' : ∀ met p outs s i s' p' out, T' met p outs → S.step s p i = some (s', p', out) →
      T' (met ++ [(s, i)]) p' (outs ++ out) := by
    intro met p outs s i s' p' out hT hone
    show T (is ++ (met ++ [(s, i)]).map Prod.snd) p' (outs ++ out)
    rw [List.map_append, ← List.append_assoc]
    exact hstep _ _ _ _ _ _ _ _ hT hone
  have hstart : T' [] (st.2 k) before := by simpa [T'] using h
  have hend : T' ([] ++ met) (st'.2 k) (before ++ inputsOf k outs) := solo_trace hstep' hstart hsolo
  rw [← hinputs]
  exact hend

/-- One step more. -/
theorem run_concat (hrun : S.run st evs = some (st', outs)) (k : κ) (i : ι) :
    S.run st (evs ++ [(k, i)]) =
      (S.step st'.1 (st'.2 k) i).map fun (s, p, out) =>
        ((s, Function.update st'.2 k p), outs ++ out.map (Prod.mk k)) := by
  induction evs generalizing st outs with
  | nil =>
      obtain ⟨rfl, rfl⟩ := Prod.mk.inj (Option.some.inj hrun)
      cases hstep : S.step st.1 (st.2 k) i <;> simp [run, hstep]
  | cons ev evs ih =>
      obtain ⟨s₁, p₁, out, outs₁, hone, hrest, rfl⟩ := run_cons_eq_some_iff.mp hrun
      rw [List.cons_append, run, hone, Option.bind_some]
      simp only [ih hrest, Option.map_map]
      congr 1
      funext x
      simp

/-- **Selection rule.**  Leave some sessions out of a run.  If the steps of the others
from related shared states are the same, and the steps that are left out stay in the
relation, then the others do what they did. -/
theorem run_select {P : κ → Bool} {A B : ι → Prop} {R : σ → σ → Prop}
    (hkept : ∀ s s' p i s₁ p₁ out, A i → R s s' → S.step s p i = some (s₁, p₁, out) →
      ∃ s₁', S.step s' p i = some (s₁', p₁, out) ∧ R s₁ s₁')
    (hleft : ∀ s s' p i s₁ p₁ out, B i → R s s' → S.step s p i = some (s₁, p₁, out) → R s₁ s')
    (hevs : ∀ k i, (k, i) ∈ evs → if P k then A i else B i) (hrun : S.run st evs = some (st', outs)) {s : σ}
    (h : R st.1 s) {sessions : κ → π} (hsessions : ∀ k, P k = true → sessions k = st.2 k) :
    ∃ s' sessions', S.run (s, sessions) (evs.filter fun ev => P ev.1) =
        some ((s', sessions'), outs.filter fun out => P out.1) ∧
      R st'.1 s' ∧ ∀ k, P k = true → sessions' k = st'.2 k := by
  induction evs generalizing st outs s sessions with
  | nil =>
      obtain ⟨rfl, rfl⟩ := Prod.mk.inj (Option.some.inj hrun)
      exact ⟨s, sessions, rfl, h, hsessions⟩
  | cons ev evs ih =>
      obtain ⟨k, i⟩ := ev
      obtain ⟨s₁, p₁, out, outs₁, hone, hrest, rfl⟩ := run_cons_eq_some_iff.mp hrun
      have hlater : ∀ k i, (k, i) ∈ evs → if P k then A i else B i :=
        fun k' i' hmem => hevs k' i' (List.mem_cons_of_mem _ hmem)
      have hfirst := hevs k i List.mem_cons_self
      rw [List.filter_append, filter_map_mk]
      cases hk : P k with
      | true =>
          rw [hk, if_pos rfl] at hfirst
          rw [← hsessions k hk] at hone
          obtain ⟨s₁', hother, hrelated⟩ := hkept _ _ _ _ _ _ _ hfirst h hone
          have hupdated : ∀ k', P k' = true →
              Function.update sessions k p₁ k' = Function.update st.2 k p₁ k' := by
            intro k' hk'
            by_cases hsame : k' = k
            · rw [hsame, Function.update_self, Function.update_self]
            · rw [Function.update_of_ne hsame, Function.update_of_ne hsame, hsessions k' hk']
          obtain ⟨s', sessions', hselected, hend, hagree⟩ := ih hlater hrest hrelated hupdated
          refine ⟨s', sessions', ?_, hend, hagree⟩
          rw [List.filter_cons_of_pos (by simpa using hk), run_cons_eq_some_iff]
          exact ⟨s₁', p₁, out, _, hother, hselected, rfl⟩
      | false =>
          rw [hk, if_neg Bool.false_ne_true] at hfirst
          have hkeptSessions : ∀ k', P k' = true → sessions k' = Function.update st.2 k p₁ k' := by
            intro k' hk'
            have hne : k' ≠ k := by
              rintro rfl
              rw [hk] at hk'
              cases hk'
            rw [Function.update_of_ne hne, hsessions k' hk']
          obtain ⟨s', sessions', hselected, hend, hagree⟩ :=
            ih hlater hrest (hleft _ _ _ _ _ _ _ hfirst h hone) hkeptSessions
          refine ⟨s', sessions', ?_, hend, hagree⟩
          rw [List.filter_cons_of_neg (by simp [hk]), if_neg Bool.false_ne_true, List.nil_append]
          exact hselected

/-- **Isolation rule.**  If what a step does to a session and what it outputs does not
depend on the shared state, then a session does in every run what it does alone. -/
theorem run_alone (hstep : ∀ s s' p i, (S.step s p i).map Prod.snd = (S.step s' p i).map Prod.snd)
    (hrun : S.run st evs = some (st', outs)) (s : σ) (k : κ) :
    ∃ st₁, S.run (s, st.2) ((inputsOf k evs).map (Prod.mk k)) =
      some (st₁, (inputsOf k outs).map (Prod.mk k)) := by
  have hkept : ∀ s s' p i s₁ p₁ out, True → True → S.step s p i = some (s₁, p₁, out) →
      ∃ s₁', S.step s' p i = some (s₁', p₁, out) ∧ True := by
    intro s s' p i s₁ p₁ out _ _ hone
    have hsame := hstep s' s p i
    rw [hone, Option.map_some] at hsame
    obtain ⟨⟨s₁', next⟩, hother, rfl⟩ := Option.map_eq_some_iff.mp hsame
    exact ⟨s₁', hother, trivial⟩
  obtain ⟨s', sessions', hselected, -⟩ := run_select (P := fun k' => decide (k' = k)) (A := fun _ => True)
    (B := fun _ => True) (R := fun _ _ => True) hkept (fun _ _ _ _ _ _ _ _ _ _ => trivial) (fun _ _ _ => by simp) hrun
    (s := s) trivial (fun _ _ => rfl)
  rw [filter_eq_map_inputsOf, filter_eq_map_inputsOf] at hselected
  exact ⟨_, hselected⟩

end Run

/-! ## Simulation -/

variable {σ' π' : Type*} {S' : Sessions σ' π' ι ο} {R : σ → σ' → Prop} {Q : π → π' → Prop}

/-- The results of two steps: related states and the same outputs. -/
def StepRel (R : σ → σ' → Prop) (Q : π → π' → Prop) (x : σ × π × List ο) (y : σ' × π' × List ο) : Prop :=
  R x.1 y.1 ∧ Q x.2.1 y.2.1 ∧ x.2.2 = y.2.2

/-- The results of two runs: related states and the same outputs. -/
def RunRel (R : σ → σ' → Prop) (Q : π → π' → Prop) (x : (σ × (κ → π)) × List (κ × ο))
    (y : (σ' × (κ → π')) × List (κ × ο)) : Prop :=
  R x.1.1 y.1.1 ∧ (∀ k, Q (x.1.2 k) (y.1.2 k)) ∧ x.2 = y.2

/-- **Simulation rule.**  If the steps from related states are related, so are the
runs. -/
theorem run_rel [DecidableEq κ]
    (hstep : ∀ s s' p p' i, R s s' → Q p p' → Option.Rel (StepRel R Q) (S.step s p i) (S'.step s' p' i))
    {st : σ × (κ → π)} {st' : σ' × (κ → π')} (evs : List (κ × ι)) (h : R st.1 st'.1)
    (hsessions : ∀ k, Q (st.2 k) (st'.2 k)) : Option.Rel (RunRel R Q) (S.run st evs) (S'.run st' evs) := by
  induction evs generalizing st st' with
  | nil => exact .some ⟨h, hsessions, rfl⟩
  | cons ev evs ih =>
      obtain ⟨k, i⟩ := ev
      refine optionRel_bind (hstep _ _ _ _ i h (hsessions k)) ?_
      intro x y hxy
      obtain ⟨hshared, hsession, hout⟩ := hxy
      have hupdated : ∀ k', Q (Function.update st.2 k x.2.1 k') (Function.update st'.2 k y.2.1 k') := by
        intro k'
        by_cases hk : k' = k
        · subst hk
          rw [Function.update_self, Function.update_self]
          exact hsession
        · rw [Function.update_of_ne hk, Function.update_of_ne hk]
          exact hsessions k'
      have hnext : R (x.1, Function.update st.2 k x.2.1).1 (y.1, Function.update st'.2 k y.2.1).1 := hshared
      refine optionRel_map (ih hnext hupdated) ?_
      intro x' y' hrest
      have houts : x.2.2.map (Prod.mk k) ++ x'.2 = y.2.2.map (Prod.mk k) ++ y'.2 := by
        rw [hout, hrest.2.2]
      exact ⟨hrest.1, hrest.2.1, houts⟩

end Sessions

end Library
