import Kimchi.Filter.FilterChain
import Kimchi.Library.UnstableSort

/-!
# The policy engine

`PolicyEngine::buildChain` of `policy/policy_engine.cpp`.  The policies a router
lists are resolved by name, sorted by `spec.order` and wrapped around the terminal
from the inside out.  `std::sort` is not stable, so the sort is an arbitrary
`UnstableSort`.

* `buildChain_eq` — the chain, read from its head.
* `buildChain_structure` — with the caches of the start-up loop, the JWT policies of
  the chain are those of the resolved policies with a JWT section, in ascending
  order, one for each occurrence.
* `enforces_iff_sectionsAgree` — the engine takes the first policy of a name and the
  start-up loop keeps the last JWT section of a name; `SectionsAgree` is what makes
  the two pick the same configuration.
-/

namespace Kimchi

open Config Library

/-- The first policy with a name. -/
def resolve (policies : List PolicyConfig) (name : Str) : Option PolicyConfig :=
  policies.find? fun pc => pc.metadata.name = name

theorem resolve_eq_some {policies : List PolicyConfig} {name : Str} {pc : PolicyConfig}
    (h : resolve policies name = some pc) : pc ∈ policies ∧ pc.metadata.name = name := by
  have hname := List.find?_some h
  exact ⟨List.mem_of_find?_eq_some h, of_decide_eq_true hname⟩

/-- The store and the key sets an engine is made with.  Its rate-limit store is in the
environment of the filters. -/
structure PolicyEngine where
  store : ConfigStore
  jwksCaches : JwksCaches

namespace PolicyEngine

variable {τ : Type*}

/-- The comparator of the sort. -/
def orderBefore (a b : PolicyConfig) : Bool := a.spec.order < b.spec.order

/-- The policies a router lists, as far as they exist. -/
def active (engine : PolicyEngine) (router : RouterConfig) : List PolicyConfig :=
  router.policies.filterMap (resolve engine.store.policies)

/-- For every name a router lists, in the order of the list, the first policy of that name,
if there is one and it has a JWT section. -/
def listedJwt (engine : PolicyEngine) (router : RouterConfig) : List PolicyConfig :=
  router.policies.filterMap fun name =>
    (engine.store.policies.find? fun pc => pc.metadata.name = name).filter fun pc => pc.jwt.isSome

/-- The body of the loop that builds the chain inside-out. -/
def wrap (engine : PolicyEngine) (current : RequestHandler τ) (pc : PolicyConfig) : RequestHandler τ :=
  match pc.spec.security with
  | none => current
  | some security =>
      match security.jwt with
      | none => current
      | some _ =>
          match engine.jwksCaches.lookup pc.metadata.name with
          | none =>
              -- no key set under the name: the policy is skipped
              current
          | some jwks => .filter (.jwtPolicy jwks) current

/-- `PolicyEngine::buildChain`. -/
def buildChain (sort : UnstableSort orderBefore) (engine : PolicyEngine) (router : RouterConfig)
    (terminal : τ) : RequestHandler τ :=
  let active := sort.sort (engine.active router)
  let current := .filter .rateLimitFilter (.terminal terminal)
  .filter .headerFilter (active.reverse.foldl engine.wrap current)

/-- The key set the loop wraps around the chain for a policy, if any. -/
def jwksFor (engine : PolicyEngine) (pc : PolicyConfig) : Option JwksCache :=
  pc.jwt.bind fun _ => engine.jwksCaches.lookup pc.metadata.name

/-- The key sets of the JWT policies a router lists, in the order in which it lists
them. -/
def listedJwks (engine : PolicyEngine) (router : RouterConfig) : List JwksCache :=
  (engine.listedJwt router).filterMap fun pc => engine.jwksCaches.lookup pc.metadata.name

/-- The key sets of the JWT policies of a chain, outermost first. -/
def jwks (sort : UnstableSort orderBefore) (engine : PolicyEngine) (router : RouterConfig) :
    List JwksCache :=
  (sort.sort (engine.active router)).filterMap engine.jwksFor

theorem listedJwt_eq (engine : PolicyEngine) (router : RouterConfig) :
    engine.listedJwt router = (engine.active router).filter fun pc => pc.jwt.isSome := by
  rw [active, List.filter_filterMap]
  rfl

theorem listedJwks_eq (engine : PolicyEngine) (router : RouterConfig) :
    engine.listedJwks router = (engine.active router).filterMap engine.jwksFor := by
  rw [listedJwks, listedJwt_eq, List.filterMap_filter]
  congr 1
  funext pc
  unfold jwksFor
  cases pc.jwt <;> rfl

theorem wrap_eq (engine : PolicyEngine) (current : RequestHandler τ) (pc : PolicyConfig) :
    engine.wrap current pc =
      (engine.jwksFor pc).elim current fun jwks => .filter (.jwtPolicy jwks) current := by
  unfold wrap jwksFor PolicyConfig.jwt
  cases hsecurity : pc.spec.security with
  | none => rfl
  | some security =>
      cases hjwt : security.jwt with
      | none => simp [hjwt]
      | some cfg => cases hcache : engine.jwksCaches.lookup pc.metadata.name <;> simp [hjwt]

/-- The filters of a chain. -/
def filtersOf (jwks : List JwksCache) : List FilterBase :=
  .headerFilter :: (jwks.map .jwtPolicy ++ [.rateLimitFilter])

/-- **The chain from its head:** the header filter, the JWT policies, the rate
limiter, the terminal. -/
theorem buildChain_eq (sort : UnstableSort orderBefore) (engine : PolicyEngine) (router : RouterConfig)
    (terminal : τ) :
    buildChain sort engine router terminal =
      .ofFilters (filtersOf (jwks sort engine router)) terminal := by
  -- iterating from the back and wrapping is a right fold
  have hwrap (pcs : List PolicyConfig) :
      pcs.foldr (fun pc current => engine.wrap current pc) (.filter .rateLimitFilter (.terminal terminal)) =
        .ofFilters ((pcs.filterMap engine.jwksFor).map .jwtPolicy ++ [.rateLimitFilter]) terminal := by
    induction pcs with
    | nil => rfl
    | cons pc pcs ih =>
        rw [List.foldr_cons, ih, wrap_eq]
        cases hjwks : engine.jwksFor pc with
        | none => rw [List.filterMap_cons_none hjwks, Option.elim_none]
        | some c =>
            rw [List.filterMap_cons_some hjwks, Option.elim_some]
            rfl
  unfold buildChain
  simp only
  rw [List.foldl_reverse, hwrap]
  rfl

@[simp] theorem filters_buildChain (sort : UnstableSort orderBefore) (engine : PolicyEngine)
    (router : RouterConfig) (terminal : τ) :
    (buildChain sort engine router terminal).filters = filtersOf (jwks sort engine router) := by
  rw [buildChain_eq, RequestHandler.filters_ofFilters]

@[simp] theorem jwtPolicy_mem_filtersOf {c : JwksCache} {jwks : List JwksCache} :
    FilterBase.jwtPolicy c ∈ filtersOf jwks ↔ c ∈ jwks := by
  simp [filtersOf, FilterBase.jwtPolicy, FilterBase.headerFilter, FilterBase.rateLimitFilter]

theorem mem_jwks_iff {sort : UnstableSort orderBefore} {engine : PolicyEngine} {router : RouterConfig}
    {c : JwksCache} :
    c ∈ jwks sort engine router ↔ ∃ pc ∈ engine.active router, engine.jwksFor pc = some c := by
  simp [jwks]

/-- A chain has the key sets of the listed policies, in some order. -/
theorem jwks_perm (sort : UnstableSort orderBefore) (engine : PolicyEngine) (router : RouterConfig) :
    (jwks sort engine router).Perm (engine.listedJwks router) := by
  rw [listedJwks_eq]
  exact (sort.perm (engine.active router)).filterMap engine.jwksFor

theorem mem_active_iff {engine : PolicyEngine} {router : RouterConfig} {pc : PolicyConfig} :
    pc ∈ engine.active router ↔
      ∃ name ∈ router.policies, resolve engine.store.policies name = some pc := by
  simp [active]

/-! ## The chain after start-up -/

section Startup

variable {net : Network} {engine : PolicyEngine}

/-- After start-up the key set of a resolved policy with a JWT section is always
found. -/
theorem jwksFor_of_jwt (h : fetchJwksCaches net engine.store.policies = some engine.jwksCaches)
    {router : RouterConfig} {pc : PolicyConfig} (hactive : pc ∈ engine.active router)
    {cfg : JwtConfig} (hjwt : pc.jwt = some cfg) :
    ∃ c, engine.jwksCaches.lookup pc.metadata.name = some c ∧ engine.jwksFor pc = some c := by
  obtain ⟨name, -, hresolve⟩ := mem_active_iff.mp hactive
  obtain ⟨c, hc⟩ := exists_lookup_of_jwt h (resolve_eq_some hresolve).1 hjwt
  exact ⟨c, hc, by rw [jwksFor, hjwt, Option.bind_some, hc]⟩

/-- The policies with a JWT section and the key sets of the chain correspond, one to
one and in order. -/
theorem forall₂_jwksFor {pcs : List PolicyConfig}
    (h : ∀ pc ∈ pcs, ∀ cfg, pc.jwt = some cfg →
      ∃ c, engine.jwksCaches.lookup pc.metadata.name = some c ∧ engine.jwksFor pc = some c) :
    List.Forall₂ (fun pc c => engine.jwksCaches.lookup pc.metadata.name = some c)
      (pcs.filter fun pc => pc.jwt.isSome) (pcs.filterMap engine.jwksFor) := by
  induction pcs with
  | nil => exact .nil
  | cons pc pcs ih =>
      have hrest := ih fun pc' hpc' => h pc' (List.mem_cons_of_mem _ hpc')
      cases hjwt : pc.jwt with
      | none =>
          have hnone : engine.jwksFor pc = none := by rw [jwksFor, hjwt, Option.bind_none]
          rw [List.filter_cons_of_neg (by simp [hjwt]), List.filterMap_cons_none hnone]
          exact hrest
      | some cfg =>
          obtain ⟨c, hlookup, hsome⟩ := h pc List.mem_cons_self cfg hjwt
          rw [List.filter_cons_of_pos (by simp [hjwt]), List.filterMap_cons_some hsome]
          exact .cons hlookup hrest

/-- After start-up the key sets of a chain are those of the listed JWT policies,
sorted by their order. -/
theorem jwks_listedJwt (h : fetchJwksCaches net engine.store.policies = some engine.jwksCaches)
    (sort : UnstableSort orderBefore) (router : RouterConfig) :
    ∃ pcs, pcs.Pairwise (fun a b => a.spec.order ≤ b.spec.order) ∧ pcs.Perm (engine.listedJwt router) ∧
      List.Forall₂ (fun pc c => engine.jwksCaches.lookup pc.metadata.name = some c) pcs
        (jwks sort engine router) := by
  rw [listedJwt_eq]
  refine ⟨(sort.sort (engine.active router)).filter fun pc => pc.jwt.isSome, ?_, ?_, ?_⟩
  · refine (List.Pairwise.imp ?_ (sort.sorted (engine.active router))).filter _
    intro a b hab
    exact Int32.not_lt.mp (of_decide_eq_false hab)
  · exact (sort.perm (engine.active router)).filter _
  · refine forall₂_jwksFor ?_
    intro pc hpc cfg hjwt
    exact jwksFor_of_jwt h (sort.mem_sort.mp hpc) hjwt

/-- **The structure of the chain.**  `pcs` are the policies that got a JWT policy
and `jwks` their key sets; the branch that skips a policy without a key set is never
taken. -/
theorem buildChain_structure (sort : UnstableSort orderBefore) (router : RouterConfig) (terminal : τ)
    (h : fetchJwksCaches net engine.store.policies = some engine.jwksCaches) :
    (∃ pcs jwks,
      (buildChain sort engine router terminal).filters =
        .headerFilter :: (jwks.map .jwtPolicy ++ [.rateLimitFilter]) ∧
      (buildChain sort engine router terminal).target = terminal ∧
      pcs.Pairwise (fun a b => a.spec.order ≤ b.spec.order) ∧
      pcs.Perm (engine.listedJwt router) ∧
      List.Forall₂ (fun pc c => engine.jwksCaches.lookup pc.metadata.name = some c) pcs jwks) ∧
    ∀ pc ∈ engine.active router, pc.jwt.isSome = true →
      engine.jwksCaches.lookup pc.metadata.name ≠ none := by
  constructor
  · obtain ⟨pcs, hsorted, hperm, hjwks⟩ := jwks_listedJwt h sort router
    refine ⟨pcs, jwks sort engine router, filters_buildChain sort engine router terminal, ?_, hsorted, hperm,
      hjwks⟩
    rw [buildChain_eq, RequestHandler.target_ofFilters]
  · intro pc hpc hsome hnone
    obtain ⟨cfg, hjwt⟩ := Option.isSome_iff_exists.mp hsome
    obtain ⟨c, hc, -⟩ := jwksFor_of_jwt h hpc hjwt
    rw [hnone] at hc
    cases hc

/-! ## First policy, last section -/

/-- Every JWT policy the loop creates holds the configuration of the policy it is
created for. -/
def EnforcesResolved (τ : Type*) (engine : PolicyEngine) (router : RouterConfig) : Prop :=
  ∀ pc ∈ engine.active router, ∀ (current : RequestHandler τ) (c : JwksCache),
    engine.wrap current pc = .filter (.jwtPolicy c) current → pc.jwt = some c.jwtConfig

/-- Every JWT section whose policy the router lists is enforced somewhere in the
chain. -/
def EnforcesListed (chain : RequestHandler τ) (policies : List PolicyConfig)
    (router : RouterConfig) : Prop :=
  ∀ pc ∈ policies, pc.metadata.name ∈ router.policies → ∀ cfg, pc.jwt = some cfg →
    ∃ c, FilterBase.jwtPolicy c ∈ chain.filters ∧ c.jwtConfig = cfg

/-- When the two ways of resolving a name agree for the names a router lists: the
first policy of a name, if it has a JWT section, has the last one of the name, and
every JWT section of a listed name is that of the first policy of a listed name. -/
structure SectionsAgree (policies : List PolicyConfig) (names : List Str) : Prop where
  first_is_last : ∀ name ∈ names, ∀ cfg, (resolve policies name).bind PolicyConfig.jwt = some cfg →
    (jwtSections policies name).getLast? = some cfg
  section_is_first : ∀ name ∈ names, ∀ cfg ∈ jwtSections policies name,
    ∃ name' ∈ names, (resolve policies name').bind PolicyConfig.jwt = some cfg

theorem mem_jwtSections_iff {policies : List PolicyConfig} {name : Str} {cfg : JwtConfig} :
    cfg ∈ jwtSections policies name ↔
      ∃ pc ∈ policies, pc.metadata.name = name ∧ pc.jwt = some cfg := by
  simp [jwtSections]

theorem wrap_eq_filter_iff {current : RequestHandler τ} {pc : PolicyConfig} {c : JwksCache} :
    engine.wrap current pc = .filter (.jwtPolicy c) current ↔ engine.jwksFor pc = some c := by
  rw [wrap_eq]
  cases hjwks : engine.jwksFor pc with
  | none =>
      -- a chain is never its own tail
      have hne : current ≠ .filter (.jwtPolicy c) current := by
        intro heq
        have hlength := congrArg (fun chain => chain.filters.length) heq
        simp [RequestHandler.filters] at hlength
      simpa using hne
  | some c' =>
      simp [FilterBase.jwtPolicy]

/-- The key set of a policy after start-up: its configuration is the last section of
its name. -/
theorem jwtConfig_of_jwksFor (h : fetchJwksCaches net engine.store.policies = some engine.jwksCaches)
    {pc : PolicyConfig} {c : JwksCache} (hc : engine.jwksFor pc = some c) :
    (jwtSections engine.store.policies pc.metadata.name).getLast? = some c.jwtConfig := by
  obtain ⟨cfg, -, hlookup⟩ := Option.bind_eq_some_iff.mp hc
  rw [← lookup_fetchJwksCaches h, hlookup]
  rfl

/-- The first clause of agreement is what the JWT policies of the chain need. -/
theorem enforcesResolved_iff [Inhabited τ]
    (h : fetchJwksCaches net engine.store.policies = some engine.jwksCaches) (router : RouterConfig) :
    EnforcesResolved τ engine router ↔
      ∀ name ∈ router.policies, ∀ cfg,
        (resolve engine.store.policies name).bind PolicyConfig.jwt = some cfg →
          (jwtSections engine.store.policies name).getLast? = some cfg := by
  constructor
  · intro henforces name hname cfg hfirst
    obtain ⟨pc, hresolve, hjwt⟩ := Option.bind_eq_some_iff.mp hfirst
    have hactive : pc ∈ engine.active router := mem_active_iff.mpr ⟨name, hname, hresolve⟩
    obtain ⟨c, -, hc⟩ := jwksFor_of_jwt h hactive hjwt
    -- the policy's own section and the last one of its name are both that of the key set
    have hown := henforces pc hactive (.terminal default) c (wrap_eq_filter_iff.mpr hc)
    have hlast := jwtConfig_of_jwksFor h hc
    rw [(resolve_eq_some hresolve).2] at hlast
    rw [hlast, ← hown, hjwt]
  · intro hagree pc hpc current c hwrap
    obtain ⟨name, hname, hresolve⟩ := mem_active_iff.mp hpc
    have hc := wrap_eq_filter_iff.mp hwrap
    obtain ⟨cfg, hjwt, -⟩ := Option.bind_eq_some_iff.mp hc
    have hlast := hagree name hname cfg (by rw [hresolve, Option.bind_some, hjwt])
    have hcache := jwtConfig_of_jwksFor h hc
    rw [(resolve_eq_some hresolve).2, hlast] at hcache
    rw [hjwt, hcache]

/-- Without repeated names the sections of a name are those of its first policy. -/
theorem jwtSections_eq_of_nodup {policies : List PolicyConfig}
    (h : (policies.map fun pc => pc.metadata.name).Nodup) (name : Str) :
    jwtSections policies name = ((resolve policies name).bind PolicyConfig.jwt).toList := by
  induction policies with
  | nil => rfl
  | cons pc policies ih =>
      obtain ⟨hfresh, hrest⟩ := List.nodup_cons.mp h
      by_cases hname : pc.metadata.name = name
      · have hnone : jwtSections policies name = [] := by
          rw [jwtSections, List.filterMap_eq_nil_iff]
          intro pc' hpc'
          have hne : pc'.metadata.name ≠ name := by
            intro heq
            exact hfresh (List.mem_map.mpr ⟨pc', hpc', heq.trans hname.symm⟩)
          rw [if_neg hne]
        have hfirst : resolve (pc :: policies) name = some pc :=
          List.find?_cons_of_pos (by simpa using hname)
        rw [hfirst, Option.bind_some]
        unfold jwtSections at hnone ⊢
        cases hjwt : pc.jwt with
        | none => rw [List.filterMap_cons_none (by rw [if_pos hname, hjwt]), hnone, Option.toList_none]
        | some cfg => rw [List.filterMap_cons_some (by rw [if_pos hname, hjwt]), hnone, Option.toList_some]
      · have hfirst : resolve (pc :: policies) name = resolve policies name :=
          List.find?_cons_of_neg (by simpa using hname)
        rw [hfirst, ← ih hrest]
        have hskip : (if pc.metadata.name = name then pc.jwt else none) = none := if_neg hname
        exact List.filterMap_cons_none hskip

/-- Unique policy names are enough for agreement. -/
theorem sectionsAgree_of_nodup {policies : List PolicyConfig}
    (h : (policies.map fun pc => pc.metadata.name).Nodup) (names : List Str) :
    SectionsAgree policies names := by
  constructor
  · intro name hname cfg hfirst
    rw [jwtSections_eq_of_nodup h, hfirst]
    rfl
  · intro name hname cfg hcfg
    rw [jwtSections_eq_of_nodup h, Option.mem_toList] at hcfg
    exact ⟨name, hname, hcfg⟩

/-- **Chains enforce the configuration they were built for exactly when the sections
agree.** -/
theorem enforces_iff_sectionsAgree (sort : UnstableSort orderBefore) (router : RouterConfig) (terminal : τ)
    (h : fetchJwksCaches net engine.store.policies = some engine.jwksCaches) :
    (EnforcesResolved τ engine router ∧
      EnforcesListed (buildChain sort engine router terminal) engine.store.policies router) ↔
    SectionsAgree engine.store.policies router.policies := by
  have hinhabited : Inhabited τ := ⟨terminal⟩
  have hresolved : EnforcesResolved τ engine router ↔ _ := enforcesResolved_iff h router
  constructor
  · rintro ⟨henforces, hlisted⟩
    refine ⟨hresolved.mp henforces, ?_⟩
    intro name hname cfg hcfg
    obtain ⟨pc, hpc, rfl, hjwt⟩ := mem_jwtSections_iff.mp hcfg
    obtain ⟨c, hc, rfl⟩ := hlisted pc hpc hname cfg hjwt
    rw [filters_buildChain, jwtPolicy_mem_filtersOf] at hc
    -- the policy that enforces the section was created for the first policy of some listed name
    obtain ⟨pc', hactive, hjwks⟩ := mem_jwks_iff.mp hc
    obtain ⟨name', hname', hresolve⟩ := mem_active_iff.mp hactive
    have hown := henforces pc' hactive (.terminal terminal) c (wrap_eq_filter_iff.mpr hjwks)
    exact ⟨name', hname', by rw [hresolve, Option.bind_some, hown]⟩
  · intro hagree
    refine ⟨hresolved.mpr hagree.first_is_last, ?_⟩
    intro pc hpc hname cfg hjwt
    obtain ⟨name', hname', hfirst⟩ :=
      hagree.section_is_first _ hname cfg (mem_jwtSections_iff.mpr ⟨pc, hpc, rfl, hjwt⟩)
    obtain ⟨pc', hresolve, hjwt'⟩ := Option.bind_eq_some_iff.mp hfirst
    have hactive : pc' ∈ engine.active router := mem_active_iff.mpr ⟨name', hname', hresolve⟩
    obtain ⟨c, -, hc⟩ := jwksFor_of_jwt h hactive hjwt'
    refine ⟨c, ?_, ?_⟩
    · rw [filters_buildChain, jwtPolicy_mem_filtersOf]
      exact mem_jwks_iff.mpr ⟨pc', hactive, hc⟩
    · have hlast := jwtConfig_of_jwksFor h hc
      rw [(resolve_eq_some hresolve).2, hagree.first_is_last name' hname' cfg hfirst] at hlast
      exact (Option.some.inj hlast).symm

end Startup

theorem orderBefore_asymm (a b : PolicyConfig) (hab : orderBefore a b = true) : orderBefore b a = false := by
  have hlt : a.spec.order < b.spec.order := of_decide_eq_true hab
  exact decide_eq_false (Int32.not_lt.mpr (Int32.le_of_lt hlt))

theorem orderBefore_trans (a b c : PolicyConfig) (hab : orderBefore b a = false)
    (hbc : orderBefore c b = false) : orderBefore c a = false := by
  have hab' : a.spec.order ≤ b.spec.order := Int32.not_lt.mp (of_decide_eq_false hab)
  have hbc' : b.spec.order ≤ c.spec.order := Int32.not_lt.mp (of_decide_eq_false hbc)
  exact decide_eq_false (Int32.not_lt.mpr (Int32.le_trans hab' hbc'))

/-- Insertion sort is one of the sorts the engine may use. -/
def orderSort : UnstableSort orderBefore := .insertion orderBefore orderBefore_asymm orderBefore_trans

end PolicyEngine

/-! ## Two stores

A JWKS server that answers every request, one store with two policies and one in
which two policies share a name. -/

namespace Sample

/-- URIs under `http://idp/` parse, and every request is answered with an empty key set. -/
def network : Network where
  parseUri uri :=
    if startsWith uri (str "http://idp/") then
      .ok { scheme := str "http", host := str "idp", port := 0, path := uri.drop 10, query := [] }
    else .error (str "invalid URI")
  httpGet _ _ _ _ := .ok (str "\x7b\"keys\":[]\x7d")

/-- A policy with a JWT section that checks this issuer. -/
def jwtPolicyConfig (name issuer : String) (order : Int32) : PolicyConfig :=
  { metadata := { name := str name }
    spec :=
      { order := order
        security := some
          { jwt := some { jwksUri := str "http://idp/jwks", issuer := str issuer, audience := [] } } } }

/-- The engine after start-up with these policies. -/
def engineFor (policies : List PolicyConfig) : PolicyEngine :=
  { store := { policies := policies }
    jwksCaches := (fetchJwksCaches network policies).getD ∅ }

/-- Two policies whose order is not the one in which they are declared. -/
def twoPolicies : PolicyEngine := engineFor [jwtPolicyConfig "b" "idp" 7, jwtPolicyConfig "a" "idp" 3]

/-- Two policies of one name. -/
def sharedName : PolicyEngine := engineFor [jwtPolicyConfig "auth" "old" 5, jwtPolicyConfig "auth" "new" 5]

/-- A router that lists these policies. -/
def routerListing (names : List String) : RouterConfig := { policies := names.map str }

end Sample

namespace PolicyEngine

/-- A router with two JWT policies, one of them listed twice. -/
theorem twoPolicies_structure :
    fetchJwksCaches Sample.network Sample.twoPolicies.store.policies = some Sample.twoPolicies.jwksCaches ∧
      ∃ jwks : List JwksCache,
        (buildChain orderSort Sample.twoPolicies (Sample.routerListing ["b", "a", "a"]) ()).filters =
          .headerFilter :: (jwks.map .jwtPolicy ++ [.rateLimitFilter]) ∧ jwks.length = 3 := by
  have h : fetchJwksCaches Sample.network Sample.twoPolicies.store.policies =
      some Sample.twoPolicies.jwksCaches := rfl
  obtain ⟨⟨pcs, jwks, hfilters, -, -, hperm, hjwks⟩, -⟩ :=
    buildChain_structure orderSort (Sample.routerListing ["b", "a", "a"]) () h
  exact ⟨h, jwks, hfilters, hjwks.length_eq.symm.trans (hperm.length_eq.trans (by decide))⟩

/-- The same store enforces both configurations. -/
theorem twoPolicies_enforced :
    fetchJwksCaches Sample.network Sample.twoPolicies.store.policies = some Sample.twoPolicies.jwksCaches ∧
      EnforcesResolved Unit Sample.twoPolicies (Sample.routerListing ["b", "a"]) ∧
      EnforcesListed (buildChain orderSort Sample.twoPolicies (Sample.routerListing ["b", "a"]) ())
        Sample.twoPolicies.store.policies (Sample.routerListing ["b", "a"]) := by
  have h : fetchJwksCaches Sample.network Sample.twoPolicies.store.policies =
      some Sample.twoPolicies.jwksCaches := rfl
  exact ⟨h, (enforces_iff_sectionsAgree orderSort _ () h).mpr (sectionsAgree_of_nodup (by decide) _)⟩

/-- Two policies named `auth`: the JWT policy created for the first one, issuer
`old`, checks tokens for the issuer `new`, and no JWT policy of the chain checks
them for `old`. -/
theorem sharedName_not_enforced :
    fetchJwksCaches Sample.network Sample.sharedName.store.policies = some Sample.sharedName.jwksCaches ∧
      ¬ EnforcesResolved Unit Sample.sharedName (Sample.routerListing ["auth"]) ∧
      ¬ EnforcesListed (buildChain orderSort Sample.sharedName (Sample.routerListing ["auth"]) ())
        Sample.sharedName.store.policies (Sample.routerListing ["auth"]) := by
  refine ⟨rfl, ?_, ?_⟩
  · intro henforces
    have hfirst := henforces (Sample.jwtPolicyConfig "auth" "old" 5) (by decide) (.terminal ())
      { jwtConfig := { jwksUri := str "http://idp/jwks", issuer := str "new", audience := [] }
        jwksJson := str "\x7b\"keys\":[]\x7d" } rfl
    revert hfirst
    decide
  · intro hlisted
    obtain ⟨c, hmem, hcfg⟩ := hlisted (Sample.jwtPolicyConfig "auth" "old" 5) (by decide) (by decide) _ rfl
    rw [filters_buildChain, jwtPolicy_mem_filtersOf] at hmem
    have hall : ∀ c ∈ jwks orderSort Sample.sharedName (Sample.routerListing ["auth"]),
        c.jwtConfig.issuer = str "new" := by decide
    have hissuer := hall c hmem
    rw [hcfg] at hissuer
    revert hissuer
    decide

end PolicyEngine

end Kimchi
