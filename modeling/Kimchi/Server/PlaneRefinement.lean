import Kimchi.Server.Process

/-!
# Two planes with the same sessions

The chain of a request is the same whether its terminal holds values or pointers.
`Plane.Refines` says what two planes have to agree on; from it every step of every
session is followed (`step_rel`), so every interleaving has the same outputs and is
undefined in the same places (`run_rel`).
-/

namespace Kimchi

open Config Library

/-! ## Chains -/

section Chains

variable {τ τ' : Type} {R : τ → τ' → Prop}

/-- The same filters around related terminals. -/
inductive RequestHandler.Rel (R : τ → τ' → Prop) : RequestHandler τ → RequestHandler τ' → Prop
  | terminal {t t'} (h : R t t') : Rel R (.terminal t) (.terminal t')
  | filter (f) {next next'} (h : Rel R next next') : Rel R (.filter f next) (.filter f next')

namespace RequestHandler

theorem Rel.target {chain : RequestHandler τ} {chain' : RequestHandler τ'} (h : Rel R chain chain') :
    R chain.target chain'.target := by
  induction h with
  | terminal h => exact h
  | filter f h ih => exact ih

theorem Rel.withTarget {chain : RequestHandler τ} {chain' : RequestHandler τ'} (h : Rel R chain chain') {t : τ}
    {t' : τ'} (ht : R t t') : Rel R (chain.withTarget t) (chain'.withTarget t') := by
  induction h with
  | terminal _ => exact .terminal ht
  | filter f _ ih => exact .filter f ih

theorem Rel.ofFilters (fs : List FilterBase) {t : τ} {t' : τ'} (ht : R t t') :
    Rel R (RequestHandler.ofFilters fs t) (RequestHandler.ofFilters fs t') := by
  induction fs with
  | nil => exact .terminal ht
  | cons f fs ih => exact .filter f ih

/-- A chain delivers an event without looking at its terminal. -/
theorem Rel.deliver {chain : RequestHandler τ} {chain' : RequestHandler τ'} (h : Rel R chain chain')
    (env : FilterEnv) (ev : RequestEvent) :
    Rel R (chain.deliver env ev).1 (chain'.deliver env ev).1 ∧
      (chain.deliver env ev).2 = (chain'.deliver env ev).2 := by
  induction h generalizing ev with
  | terminal h => exact ⟨.terminal h, rfl⟩
  | filter f h ih =>
      cases ev with
      | onRequest msg =>
          simp only [RequestHandler.deliver]
          cases f.onRequest env msg with
          | forward msg' => exact ⟨.filter f (ih _).1, by simp only [(ih (.onRequest msg')).2]⟩
          | block response => exact ⟨.filter _ h, rfl⟩
      | stream ev =>
          simp only [RequestHandler.deliver]
          cases f.blocked with
          | true => exact ⟨.filter f h, rfl⟩
          | false => exact ⟨.filter f (ih _).1, (ih _).2⟩

end RequestHandler

/-- The results of two terminals: related states and the same effects. -/
def Answered {ε : Type} (R : τ → τ' → Prop) (x : τ × List ε) (y : τ' × List ε) : Prop :=
  R x.1 y.1 ∧ x.2 = y.2

/-- Related terminals answer every event alike. -/
def Follows (R : τ → τ' → Prop) (T : PartialMachine τ RequestEvent HandlerEffect)
    (T' : PartialMachine τ' RequestEvent HandlerEffect) : Prop :=
  ∀ t t' ev, R t t' → Option.Rel (Answered R) (T.step t ev) (T'.step t' ev)

variable {T : PartialMachine τ RequestEvent HandlerEffect} {T' : PartialMachine τ' RequestEvent HandlerEffect}

theorem settle_rel (hT : Follows R T T') (effects : List ChainEffect) {t : τ} {t' : τ'} (ht : R t t') :
    Option.Rel (Answered R) (RequestHandler.settle T t effects) (RequestHandler.settle T' t' effects) := by
  induction effects generalizing t t' with
  | nil => exact .some ⟨ht, rfl⟩
  | cons effect effects ih =>
      cases effect with
      | checkAndDecrement key =>
          refine optionRel_map (ih ht) ?_
          intro x y hxy
          exact ⟨hxy.1, congrArg (_ :: ·) hxy.2⟩
      | respond call =>
          refine optionRel_map (ih ht) ?_
          intro x y hxy
          exact ⟨hxy.1, congrArg (_ :: ·) hxy.2⟩
      | toTerminal ev =>
          refine optionRel_bind (hT t t' ev ht) ?_
          intro x y hxy
          refine optionRel_bind (ih hxy.1) ?_
          intro x' y' hrest
          exact .some ⟨hrest.1, congrArg₂ (fun out rest => out.map HandlerEffect.served ++ rest) hxy.2 hrest.2⟩

/-- The handlers of a request around related terminals. -/
inductive Serving.Rel (R : τ → τ' → Prop) : Serving τ → Serving τ' → Prop
  | notFound : Rel R .notFound .notFound
  | badGateway (msg) : Rel R (.badGateway msg) (.badGateway msg)
  | chain {head head'} (h : RequestHandler.Rel R head head') : Rel R (.chain head) (.chain head')

theorem Serving.Rel.step (hT : Follows R T T') {s : Serving τ} {s' : Serving τ'} (h : Serving.Rel R s s')
    (env : FilterEnv) (ev : RequestEvent) :
    Option.Rel (Answered (Serving.Rel R)) (s.step env T ev) (s'.step env T' ev) := by
  cases h with
  | notFound => cases ev <;> exact .some ⟨.notFound, rfl⟩
  | badGateway msg => cases ev <;> exact .some ⟨.badGateway msg, rfl⟩
  | chain h =>
      obtain ⟨hchain, heffects⟩ := h.deliver env ev
      refine optionRel_map (R := Answered (RequestHandler.Rel R)) ?_ fun x y hxy => ⟨.chain hxy.1, hxy.2⟩
      simp only [RequestHandler.serve, heffects]
      refine optionRel_map (settle_rel hT _ hchain.target) ?_
      intro x y hxy
      exact ⟨hchain.withTarget hxy.1, hxy.2⟩

end Chains

/-! ## Sessions -/

section Sessions

variable {σ σ' τ τ' : Type} {Rσ : σ → σ' → Prop} {Rτ : τ → τ' → Prop}

/-- Streams with related handlers and everything else the same. -/
structure Stream.Rel (R : τ → τ' → Prop) (st : Stream τ) (st' : Stream τ') : Prop where
  serving : Serving.Rel R st.serving st'.serving
  client : st.client = st'.client
  exchange : st.exchange = st'.exchange
  responseEnded : st.responseEnded = st'.responseEnded

/-- Sessions that differ in the handlers of their requests alone. -/
inductive Session.Rel (R : τ → τ' → Prop) : Session τ → Session τ' → Prop
  | idle : Rel R .idle .idle
  | stream {st st'} (h : Stream.Rel R st st') : Rel R (.stream st) (.stream st')
  | admin (a) : Rel R (.admin a) (.admin a)

/-- What two planes agree on from related shared states. -/
structure Plane.Refines (plane : Plane σ τ) (plane' : Plane σ' τ') (Rσ : σ → σ' → Prop) (Rτ : τ → τ' → Prop) :
    Prop where
  env : ∀ s s' rand64, Rσ s s' → plane.env s rand64 = plane'.env s' rand64
  charge : ∀ s s' keys, Rσ s s' → Rσ (plane.charge s keys) (plane'.charge s' keys)
  dispatch : ∀ s s' msg, Rσ s s' → Option.Rel (Serving.Rel Rτ) (plane.dispatch s msg) (plane'.dispatch s' msg)
  terminal : ∀ s s', Rσ s s' → Follows Rτ (plane.terminal s) (plane'.terminal s')
  reload : ∀ s s' dir, Rσ s s' →
    Rσ (plane.reload s dir).1 (plane'.reload s' dir).1 ∧ (plane.reload s dir).2 = (plane'.reload s' dir).2

theorem Stream.Rel.absorb {st : Stream τ} {st' : Stream τ'} (h : Stream.Rel Rτ st st') {serving : Serving τ}
    {serving' : Serving τ'} (hserving : Serving.Rel Rτ serving serving') (effects : List ServedEffect) :
    Stream.Rel Rτ (st.absorb serving effects) (st'.absorb serving' effects) :=
  { serving := hserving
    client := h.client
    exchange := by simp only [Stream.absorb, h.exchange]
    responseEnded := by simp only [Stream.absorb, h.responseEnded] }

namespace Plane.Refines

variable {plane : Plane σ τ} {plane' : Plane σ' τ'}

theorem adminEvent_rel (href : plane.Refines plane' Rσ Rτ) {s : σ} {s' : σ'} (h : Rσ s s') (a : AdminStream)
    (dir : ConfigDir) (ev : StreamEvent) :
    Option.Rel (fun x y => Rσ x.1 y.1 ∧ x.2 = y.2) (plane.adminEvent s a dir ev) (plane'.adminEvent s' a dir ev) := by
  cases ev with
  | onBody body => exact .some ⟨h, rfl⟩
  | onUpgrade prot => exact .some ⟨h, rfl⟩
  | onEOM =>
      have heom : Option.Rel (fun x y => Rσ x.1 y.1 ∧ x.2 = y.2) (plane.adminEOM s a.handler dir)
          (plane'.adminEOM s' a.handler dir) := by
        unfold Plane.adminEOM
        cases a.handler.requestHeaders with
        | none => exact .none
        | some headers =>
            simp only [Option.bind_eq_bind, Option.bind_some]
            split
            · exact .some ⟨h, rfl⟩
            · split
              · exact .some (href.reload s s' dir h)
              · exact .some ⟨h, rfl⟩
      refine optionRel_map heom ?_
      intro x y hxy
      exact ⟨hxy.1, by simp only [hxy.2]⟩

/-- **Every step is followed.** -/
theorem step_rel (href : plane.Refines plane' Rσ Rτ) (s : σ) (s' : σ') (p : Session τ) (p' : Session τ')
    (i : SessionInput) (h : Rσ s s') (hsession : Session.Rel Rτ p p') :
    Option.Rel (Sessions.StepRel Rσ (Session.Rel Rτ)) (plane.step s p i) (plane'.step s' p' i) := by
  cases hsession with
  | idle =>
      cases i with
      | request msg rand64 =>
          refine optionRel_bind (href.dispatch s s' msg h) ?_
          intro handler handler' hhandler
          rw [href.env s s' rand64 h]
          refine optionRel_bind (hhandler.step (href.terminal s s' h) _ _) ?_
          intro x y hxy
          obtain ⟨hserving, heffects⟩ := hxy
          have hfresh : Stream.Rel Rτ { serving := x.1 } { serving := y.1 } := ⟨hserving, rfl, rfl, rfl⟩
          refine .some ⟨?_, .stream ?_, congrArg _ heffects⟩
          · rw [heffects]
            exact href.charge s s' _ h
          · rw [heffects]
            exact hfresh.absorb hserving _
      | adminRequest msg => exact .some ⟨h, .admin _, rfl⟩
      | _ => exact .none
  | @stream st st' hst =>
      cases i with
      | event ev =>
          simp only [Plane.step, hst.client]
          split
          · rw [href.env s s' (0, 0) h]
            refine optionRel_bind (hst.serving.step (href.terminal s s' h) _ _) ?_
            intro x y hxy
            obtain ⟨hserving, heffects⟩ := hxy
            have habsorbed := hst.absorb hserving y.2
            refine .some ⟨?_, .stream ?_, congrArg _ heffects⟩
            · rw [heffects]
              exact href.charge s s' _ h
            · rw [heffects]
              exact ⟨habsorbed.serving, rfl, habsorbed.exchange, habsorbed.responseEnded⟩
          · exact .none
      | onError =>
          simp only [Plane.step, hst.client]
          split
          · exact .some ⟨h, .stream ⟨hst.serving, rfl, hst.exchange, hst.responseEnded⟩, rfl⟩
          · exact .none
      | requestComplete =>
          simp only [Plane.step, hst.client, hst.responseEnded]
          split
          · exact .some ⟨h, .stream ⟨hst.serving, rfl, hst.exchange, hst.responseEnded⟩, rfl⟩
          · exact .none
      | upstream cb =>
          simp only [Plane.step, hst.exchange, hst.client]
          cases st'.exchange with
          | none => exact .none
          | some exchange =>
              obtain ⟨phase, c⟩ := exchange
              cases hnext : phase.next cb with
              | none =>
                  simp only [Option.bind_eq_bind, Option.bind_some, hnext, Option.bind_none]
                  exact .none
              | some phase' =>
                  simp only [Option.bind_eq_bind, Option.bind_some, hnext]
                  split
                  · exact .none
                  · split
                    · exact .none
                    · refine .some ⟨h, .stream ⟨hst.serving, hst.client, rfl, ?_⟩, rfl⟩
                      simp only [Stream.relay, hst.responseEnded]
      | _ => exact .none
  | admin a =>
      cases i with
      | adminEvent ev dir =>
          simp only [Plane.step]
          split
          · refine optionRel_map (href.adminEvent_rel h a dir ev) ?_
            intro x y hxy
            obtain ⟨hshared, hsame⟩ := hxy
            refine ⟨hshared, ?_, ?_⟩
            · simp only [hsame]
              exact .admin _
            · simp only [hsame]
          · exact .none
      | onError =>
          simp only [Plane.step]
          split
          · exact .some ⟨h, .admin _, rfl⟩
          · exact .none
      | requestComplete =>
          simp only [Plane.step]
          split
          · exact .some ⟨h, .admin _, rfl⟩
          · exact .none
      | _ => exact .none

/-- **Every interleaving is followed,** with the same outputs. -/
theorem run_rel (href : plane.Refines plane' Rσ Rτ) {κ : Type} [DecidableEq κ] {s : σ} {s' : σ'} (h : Rσ s s')
    (evs : List (κ × SessionInput)) :
    Option.Rel (Sessions.RunRel Rσ (Session.Rel Rτ)) (plane.sessions.run (s, fun _ => .idle) evs)
      (plane'.sessions.run (s', fun _ => .idle) evs) :=
  Sessions.run_rel href.step_rel evs h fun _ => .idle

end Plane.Refines

end Sessions

end Kimchi
