import Kimchi.Policy.PolicyEngine

/-!
# The order of a router's policies

A router lists its policies in an array, and the engine sorts them by `spec.order`.
The position in the array is meant not to matter.  It does where two policies have the
same order, which all of them have unless the files say otherwise: a sort that is
free to leave them as they stand passes the array order on.

`policies_order_irrelevant_iff` says when it does not matter.  Key sets are compared
by what they hold: they never change, so nothing tells two objects with the same
content apart.
-/

namespace Kimchi

open Config Library

/-- The key sets of the JWT policies a request meets in a chain, in this sequence. -/
def RequestHandler.jwtPolicies {τ : Type*} (chain : RequestHandler τ) : List JwksCache :=
  chain.filters.filterMap fun f =>
    match f.kind with
    | .jwt jwks => some jwks
    | _ => none

namespace PolicyEngine

variable {τ : Type*}

theorem jwtPolicies_buildChain (sort : UnstableSort orderBefore) (engine : PolicyEngine)
    (router : RouterConfig) (terminal : τ) :
    (buildChain sort engine router terminal).jwtPolicies = jwks sort engine router := by
  unfold RequestHandler.jwtPolicies
  rw [filters_buildChain, filtersOf, List.filterMap_cons_none rfl, List.filterMap_append, List.filterMap_map]
  -- each of the policies in the middle shows its own key set, the rate limiter none
  change (jwks sort engine router).filterMap some ++ [] = _
  rw [List.filterMap_some, List.append_nil]

/-- Two listed policies of the same order that both get a JWT policy get the same key
set. -/
def TiesShareKeySet (engine : PolicyEngine) (router : RouterConfig) : Prop :=
  ∀ pc ∈ engine.active router, ∀ pc' ∈ engine.active router, pc.spec.order = pc'.spec.order →
    ∀ c c', engine.jwksFor pc = some c → engine.jwksFor pc' = some c' → c = c'

/-- The comparator leaves two policies tied exactly when their orders are equal. -/
theorem tied_iff {a b : PolicyConfig} :
    (orderBefore a b = false ∧ orderBefore b a = false) ↔ a.spec.order = b.spec.order := by
  unfold orderBefore
  rw [decide_eq_false_iff_not, decide_eq_false_iff_not, Int32.not_lt, Int32.not_lt]
  constructor
  · rintro ⟨hba, hab⟩
    exact Int32.le_antisymm hab hba
  · intro heq
    rw [heq]
    exact ⟨Int32.le_refl _, Int32.le_refl _⟩

theorem tiesAgree_iff {engine : PolicyEngine} {router : RouterConfig} :
    UnstableSort.TiesAgree orderBefore engine.jwksFor (engine.active router) ↔
      engine.TiesShareKeySet router := by
  constructor
  · intro hties pc hpc pc' hpc' horder
    obtain ⟨hle, hge⟩ := tied_iff.mpr horder
    exact hties pc hpc pc' hpc' hle hge
  · intro hshare pc hpc pc' hpc' hle hge
    exact hshare pc hpc pc' hpc' (tied_iff.mp ⟨hle, hge⟩)

/-- A router that lists the same names otherwise has the same policies otherwise. -/
theorem active_perm (engine : PolicyEngine) {router : RouterConfig} {names : List Str}
    (h : names.Perm router.policies) :
    (engine.active { router with policies := names }).Perm (engine.active router) :=
  h.filterMap _

/-- **The order of the array is irrelevant exactly when ties share their key set.**
For every store and cache map and every router: the router, and every router that
differs from it by a permutation of its policies, run the same JWT policies in the
same sequence, whatever order `std::sort` gives on each side. -/
theorem policies_order_irrelevant_iff (engine : PolicyEngine) (router : RouterConfig)
    (terminal terminal' : τ) :
    (∀ names : List Str, names.Perm router.policies → ∀ sort sort' : UnstableSort orderBefore,
      (buildChain sort engine router terminal).jwtPolicies =
        (buildChain sort' engine { router with policies := names } terminal').jwtPolicies) ↔
      engine.TiesShareKeySet router := by
  simp only [jwtPolicies_buildChain]
  rw [← tiesAgree_iff]
  constructor
  · intro hsame
    apply UnstableSort.tiesAgree_of_filterMap_sort_eq orderBefore_asymm orderBefore_trans
    intro sort sort'
    exact hsame router.policies (List.Perm.refl _) sort sort'
  · intro hties names hperm sort sort'
    exact hties.filterMap_sort_eq (active_perm engine hperm) sort sort'

end PolicyEngine

namespace Sample

/-- Two policies for different issuers; neither file gives an order, so both have the
default. -/
def tiedPolicies : PolicyEngine := engineFor [jwtPolicyConfig "a" "idp-a" 0, jwtPolicyConfig "b" "idp-b" 0]

end Sample

/-- With one and the same sort, the array `[a, b]` checks the token for `idp-a` first
and the array `[b, a]` for `idp-b`. -/
theorem tied_policies_follow_array :
    (Sample.routerListing ["b", "a"]).policies.Perm (Sample.routerListing ["a", "b"]).policies ∧
      ((PolicyEngine.buildChain PolicyEngine.orderSort Sample.tiedPolicies
          (Sample.routerListing ["a", "b"]) ()).jwtPolicies.map fun c => c.jwtConfig.issuer) =
        [str "idp-a", str "idp-b"] ∧
      ((PolicyEngine.buildChain PolicyEngine.orderSort Sample.tiedPolicies
          (Sample.routerListing ["b", "a"]) ()).jwtPolicies.map fun c => c.jwtConfig.issuer) =
        [str "idp-b", str "idp-a"] := by
  refine ⟨List.Perm.swap _ _ _, ?_, ?_⟩
  · rw [PolicyEngine.jwtPolicies_buildChain]
    decide
  · rw [PolicyEngine.jwtPolicies_buildChain]
    decide

end Kimchi
