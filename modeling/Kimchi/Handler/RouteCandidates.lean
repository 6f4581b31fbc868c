import Kimchi.Handler.PrefixTies

/-!
# The routers a request may be matched to

`RouteSpec` numbers the routers, so it speaks about one order of declaration.
`Selectable` says which routers may be selected without any order: those with a rule
that serves the request in the first tier where some rule does, and among prefixes a
longest one.

* `selectable_perm` — reordering the routers changes nothing.
* `selectable_of_matched`, `matched_eq_none_iff` — whatever is selected is
  selectable, and something is selected unless nothing is.
* `matched_cons_of_selectable` — a selectable router that is declared first is
  selected, when the sort leaves tied prefixes in declaration order.
-/

namespace Kimchi

open Config Library

/-- Whether a rule serves a request in a tier; where it is declared plays no
part. -/
def ruleServes {ρ : Type*} (re : RegexLib ρ) (path method : Str) (tier : PathType) (rule : RouterRule) : Bool :=
  match tier with
  | .exact => DeclaredRule.servesExact path method ⟨0, rule⟩
  | .pathPrefix => DeclaredRule.servesPrefix path method ⟨0, rule⟩
  | .regex => DeclaredRule.servesRegex re path method ⟨0, rule⟩

/-- A rule that may decide: one of the first tier that serves the request, and among
prefixes one of maximal length. -/
inductive Decisive {ρ : Type*} (re : RegexLib ρ) (path method : Str) (rules : List RouterRule)
    (rule : RouterRule) : Prop
  | exact (hserves : ruleServes re path method .exact rule = true)
  | pathPrefix (hexact : ∀ r ∈ rules, ruleServes re path method .exact r = false)
      (hserves : ruleServes re path method .pathPrefix rule = true)
      (hmax : ∀ r ∈ rules, ruleServes re path method .pathPrefix r = true →
        r.path.length ≤ rule.path.length)
  | regex (hexact : ∀ r ∈ rules, ruleServes re path method .exact r = false)
      (hpathPrefix : ∀ r ∈ rules, ruleServes re path method .pathPrefix r = false)
      (hserves : ruleServes re path method .regex rule = true)

/-- A router that may be selected. -/
def Selectable {ρ : Type*} (re : RegexLib ρ) (routers : List RouterConfig) (path method : Str)
    (router : RouterConfig) : Prop :=
  router ∈ routers ∧ ∃ rule ∈ router.rules, Decisive re path method (routers.flatMap (·.rules)) rule

section Candidates

variable {ρ : Type*} {re : RegexLib ρ} {path method : Str}

theorem Decisive.congr {rules rules' : List RouterRule} (hrules : ∀ rule, rule ∈ rules' → rule ∈ rules)
    {rule : RouterRule} (h : Decisive re path method rules rule) : Decisive re path method rules' rule := by
  cases h with
  | exact hserves => exact .exact hserves
  | pathPrefix hexact hserves hmax =>
      exact .pathPrefix (fun r hr => hexact r (hrules r hr)) hserves fun r hr => hmax r (hrules r hr)
  | regex hexact hpathPrefix hserves =>
      exact .regex (fun r hr => hexact r (hrules r hr)) (fun r hr => hpathPrefix r (hrules r hr)) hserves

/-- The order of the routers plays no part. -/
theorem selectable_perm {routers routers' : List RouterConfig} (h : routers.Perm routers')
    {router : RouterConfig} (hrouter : Selectable re routers path method router) :
    Selectable re routers' path method router := by
  rcases hrouter with ⟨hmem, rule, hrule, hdecisive⟩
  have hrules := h.flatMap_right (·.rules)
  exact ⟨h.mem_iff.mp hmem, rule, hrule, hdecisive.congr fun r hr => hrules.mem_iff.mpr hr⟩

/-- The rules of the routers are the declared ones. -/
theorem forall_declaredRules_iff {routers : List RouterConfig} {P : RouterRule → Prop} :
    (∀ d ∈ declaredRules routers, P d.rule) ↔ ∀ rule ∈ routers.flatMap (·.rules), P rule := by
  constructor
  · intro h rule hrule
    rcases List.mem_flatMap.mp hrule with ⟨router, hrouter, hrule⟩
    rcases List.getElem?_of_mem hrouter with ⟨i, hi⟩
    exact h ⟨i, rule⟩ (mem_declaredRules_iff.mpr ⟨router, hi, hrule⟩)
  · intro h d hd
    rcases mem_declaredRules_iff.mp hd with ⟨router, hrouter, hrule⟩
    exact h d.rule (List.mem_flatMap.mpr ⟨router, List.mem_of_getElem? hrouter, hrule⟩)

variable {routers : List RouterConfig}

theorem selectable_of_declared {d : DeclaredRule} (hd : d ∈ declaredRules routers) {router : RouterConfig}
    (hrouter : routers[d.routerIndex]? = some router)
    (hdecisive : Decisive re path method (routers.flatMap (·.rules)) d.rule) :
    Selectable re routers path method router := by
  rcases mem_declaredRules_iff.mp hd with ⟨router', hrouter', hrule⟩
  obtain rfl : router' = router := Option.some.inj (hrouter'.symm.trans hrouter)
  exact ⟨List.mem_of_getElem? hrouter, d.rule, hrule, hdecisive⟩

/-- The precedence rule selects a selectable router. -/
theorem selectable_of_routeSpec {i : Nat} {router : RouterConfig}
    (h : RouteSpec re (declaredRules routers) path method (some i)) (hrouter : routers[i]? = some router) :
    Selectable re routers path method router := by
  cases h with
  | exact d hfirst =>
      have hserves : d.servesExact path method = true := List.find?_some hfirst
      exact selectable_of_declared (List.mem_of_find?_eq_some hfirst) hrouter (.exact hserves)
  | pathPrefix d hexact hd hserves hmax =>
      refine selectable_of_declared hd hrouter (.pathPrefix (forall_declaredRules_iff.mp hexact) hserves ?_)
      exact forall_declaredRules_iff.mp hmax
  | regex d hexact hpathPrefix hfirst =>
      have hserves : d.servesRegex re path method = true := List.find?_some hfirst
      exact selectable_of_declared (List.mem_of_find?_eq_some hfirst) hrouter
        (.regex (forall_declaredRules_iff.mp hexact) (forall_declaredRules_iff.mp hpathPrefix) hserves)

/-- It selects nothing only when no router is selectable. -/
theorem not_selectable_of_routeSpec_none (h : RouteSpec re (declaredRules routers) path method none)
    (router : RouterConfig) : ¬ Selectable re routers path method router := by
  rintro ⟨hmem, rule, hrule, hdecisive⟩
  rcases List.getElem?_of_mem hmem with ⟨i, hi⟩
  have hdeclared : (⟨i, rule⟩ : DeclaredRule) ∈ declaredRules routers :=
    mem_declaredRules_iff.mpr ⟨router, hi, hrule⟩
  cases h with
  | none hexact hpathPrefix hregex =>
      have hserved : ∀ tier, ruleServes re path method tier rule = false := by
        intro tier
        cases tier with
        | exact => exact hexact ⟨i, rule⟩ hdeclared
        | pathPrefix => exact hpathPrefix ⟨i, rule⟩ hdeclared
        | regex => exact hregex ⟨i, rule⟩ hdeclared
      cases hdecisive with
      | exact hserves => simp [hserved] at hserves
      | pathPrefix _ hserves _ => simp [hserved] at hserves
      | regex _ _ hserves => simp [hserved] at hserves

namespace RoutingTables

variable {sort : UnstableSort longerFirst}

theorem selectable_of_matched {i : Nat} {router : RouterConfig}
    (h : (build sort re routers).matched re path method = some i) (hrouter : routers[i]? = some router) :
    Selectable re routers path method router := by
  have hspec := matched_spec sort re routers path method
  rw [h] at hspec
  exact selectable_of_routeSpec hspec hrouter

theorem matched_eq_none_iff :
    (build sort re routers).matched re path method = none ↔
      ∀ router, ¬ Selectable re routers path method router := by
  have hspec := matched_spec sort re routers path method
  constructor
  · intro h
    rw [h] at hspec
    exact not_selectable_of_routeSpec_none hspec
  · intro hnone
    cases hmatched : (build sort re routers).matched re path method with
    | none => rfl
    | some i =>
        rw [hmatched] at hspec
        have hlt := hspec.lt_length
        exact absurd (selectable_of_matched hmatched (List.getElem?_eq_getElem hlt)) (hnone _)

/-! ## The router that is declared first -/

/-- The sort that leaves tied prefixes in declaration order. -/
def byDeclaration : UnstableSort longerFirst :=
  .byKey longerFirst longerFirst_asymm longerFirst_trans (·.routerIndex)

/-- A scan of the rules stops at the first router if one of its rules is a hit. -/
theorem find?_declaredRules_cons {p : DeclaredRule → Bool} {router : RouterConfig} {rule : RouterRule}
    (hrule : rule ∈ router.rules) (hp : p ⟨0, rule⟩ = true) (rest : List RouterConfig) :
    ((declaredRules (router :: rest)).find? p).map (·.routerIndex) = some 0 := by
  have hsplit : declaredRules (router :: rest) =
      router.rules.map (fun rule => ⟨0, rule⟩) ++
        (rest.zipIdx 1).flatMap fun entry => entry.1.rules.map fun rule => ⟨entry.2, rule⟩ := rfl
  rw [hsplit, List.find?_append]
  cases hfind : (router.rules.map fun rule => (⟨0, rule⟩ : DeclaredRule)).find? p with
  | none =>
      have hmiss := List.find?_eq_none.mp hfind ⟨0, rule⟩ (List.mem_map.mpr ⟨rule, hrule, rfl⟩)
      exact absurd hp hmiss
  | some d =>
      rcases List.mem_map.mp (List.mem_of_find?_eq_some hfind) with ⟨rule', -, rfl⟩
      rfl

/-- The prefix tier stops at the first router if one of its rules is among the
longest. -/
theorem prefixTier_cons {router : RouterConfig} {rest : List RouterConfig} {d : DeclaredRule}
    (hd : LongestPrefix (declaredRules (router :: rest)) path method d) (hindex : d.routerIndex = 0) :
    prefixTier byDeclaration re (router :: rest) path method = some 0 := by
  rcases exists_prefixRoute re hd.mem hd.serves with ⟨r, hr, hpath, hrindex, hserves⟩
  cases hfind : (byDeclaration.sort (addRouters re (router :: rest)).prefixRoutes).find? fun r =>
      startsWith path r.pathPrefix && methodMatches r.methods method with
  | none =>
      have hmiss := byDeclaration.find?_sort_eq_none.mp hfind r hr
      rw [hserves] at hmiss
      cases hmiss
  | some r' =>
      -- the hit is as long as `r` and not declared after it
      have hr' := byDeclaration.mem_sort.mp (List.mem_of_find?_eq_some hfind)
      have hhit := List.find?_some hfind
      have htied : longerFirst r' r = false := longerFirst_eq_false hd hpath hr' hhit
      have hle := UnstableSort.key_le_of_find?_byKey hfind hr hserves htied
      have hzero : r'.routerIndex = 0 := by
        simp only [hrindex, hindex] at hle
        omega
      rw [prefixTier, hfind, Option.map_some, hzero]

/-- **A selectable router that is declared first is selected.** -/
theorem matched_cons_of_selectable {router : RouterConfig} {rest : List RouterConfig}
    (h : Selectable re (router :: rest) path method router) :
    (build byDeclaration re (router :: rest)).matched re path method = some 0 := by
  rcases h with ⟨-, rule, hrule, hdecisive⟩
  have hdeclared : (⟨0, rule⟩ : DeclaredRule) ∈ declaredRules (router :: rest) :=
    mem_declaredRules_iff.mpr ⟨router, rfl, hrule⟩
  cases hdecisive with
  | exact hserves =>
      rw [matched_build_eq, find?_declaredRules_cons hrule hserves, Option.some_or]
  | pathPrefix hexact hserves hmax =>
      apply matched_of_prefixTier (forall_declaredRules_iff.mpr hexact)
      exact prefixTier_cons ⟨hdeclared, hserves, forall_declaredRules_iff.mpr hmax⟩ rfl
  | regex hexact hpathPrefix hserves =>
      have hnoExact : (declaredRules (router :: rest)).find? (·.servesExact path method) = none := by
        rw [List.find?_eq_none]
        intro d hd
        have hmiss := forall_declaredRules_iff.mpr hexact d hd
        exact Bool.eq_false_iff.mp hmiss
      have hnoPrefix : prefixTier byDeclaration re (router :: rest) path method = none :=
        prefixTier_eq_none_iff.mpr (forall_declaredRules_iff.mpr hpathPrefix)
      rw [matched_build_eq, hnoExact, hnoPrefix, Option.map_none, Option.none_or, Option.none_or]
      exact find?_declaredRules_cons hrule hserves rest

end RoutingTables

end Candidates

end Kimchi
