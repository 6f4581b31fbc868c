import Kimchi.Handler.RoutingTables
import Kimchi.Library.FirstHit

/-!
# Prefix rules of equal length

The exact and the regex tier scan their rules in declaration order.  The prefix tier
scans a vector that `std::sort` ordered by length alone, and `std::sort` is not
stable: which of several rules of the same length comes first is up to the
implementation.

* `matched_build_eq` — selection tier by tier; only the prefix tier sees the sort.
* `prefixTier_eq_some`, `exists_prefixTier_eq` — the prefix tier gives a serving rule
  of maximal length, and **each** of them for some sort.
* `prefixTies_resolved_iff` — so the choice is the first declared rule, and the same
  for all sorts, exactly when the rules in question are all of one router.
-/

namespace Kimchi

open Config Library

/-- The rule serves the request by its prefix, and no rule with a longer one
does. -/
structure LongestPrefix (rules : List DeclaredRule) (path method : Str) (d : DeclaredRule) : Prop where
  mem : d ∈ rules
  serves : d.servesPrefix path method = true
  longest : ∀ d' ∈ rules, d'.servesPrefix path method = true →
    d'.rule.path.length ≤ d.rule.path.length

/-- The first such rule in declaration order. -/
def firstLongest (rules : List DeclaredRule) (path method : Str) : Option DeclaredRule :=
  rules.find? fun d => d.servesPrefix path method &&
    rules.all fun d' => !d'.servesPrefix path method || d'.rule.path.length ≤ d.rule.path.length

theorem longestPrefix_of_firstLongest {rules : List DeclaredRule} {path method : Str} {d : DeclaredRule}
    (h : firstLongest rules path method = some d) : LongestPrefix rules path method d := by
  have hd := List.find?_some h
  simp only [Bool.and_eq_true, List.all_eq_true, Bool.or_eq_true, Bool.not_eq_true',
    decide_eq_true_eq] at hd
  refine ⟨List.mem_of_find?_eq_some h, hd.1, ?_⟩
  intro d' hd' hserves
  rcases hd.2 d' hd' with hnot | hle
  · rw [hserves] at hnot
    cases hnot
  · exact hle

namespace RoutingTables

variable {ρ : Type*}

/-- What the scan of the sorted prefixes selects. -/
def prefixTier (sort : UnstableSort longerFirst) (re : RegexLib ρ) (routers : List RouterConfig)
    (path method : Str) : Option Nat :=
  ((sort.sort (addRouters re routers).prefixRoutes).find? fun r =>
    startsWith path r.pathPrefix && methodMatches r.methods method).map (·.routerIndex)

/-- Selection tier by tier: the first exact rule, the prefix tier, the first regex
rule. -/
theorem matched_build_eq (sort : UnstableSort longerFirst) (re : RegexLib ρ) (routers : List RouterConfig)
    (path method : Str) :
    (build sort re routers).matched re path method =
      (((declaredRules routers).find? (·.servesExact path method)).map (·.routerIndex)).or
        ((prefixTier sort re routers path method).or
          (((declaredRules routers).find? (·.servesRegex re path method)).map (·.routerIndex))) := by
  rw [matched_eq, ← exactTier_eq re, ← regexTier_eq]
  rfl

variable {sort : UnstableSort longerFirst} {re : RegexLib ρ} {routers : List RouterConfig}
  {path method : Str}

theorem prefixTier_eq_some {i : Nat} (h : prefixTier sort re routers path method = some i) :
    ∃ d, LongestPrefix (declaredRules routers) path method d ∧ d.routerIndex = i := by
  rcases Option.map_eq_some_iff.mp h with ⟨r, hfind, hindex⟩
  rcases prefixTier_some sort re hfind with ⟨d, hd, hserves, hr, hmax⟩
  exact ⟨d, ⟨hd, hserves, hmax⟩, hr.symm.trans hindex⟩

theorem prefixTier_eq_none_iff :
    prefixTier sort re routers path method = none ↔
      ∀ d ∈ declaredRules routers, d.servesPrefix path method = false := by
  constructor
  · intro h
    exact prefixTier_none sort re (Option.map_eq_none_iff.mp h)
  · intro hnone
    cases htier : prefixTier sort re routers path method with
    | none => rfl
    | some i =>
        rcases prefixTier_eq_some htier with ⟨d, hd, -⟩
        have hserves := hd.serves
        rw [hnone d hd.mem] at hserves
        cases hserves

/-- A serving rule stands in the prefix table with its path and the index of its
router. -/
theorem exists_prefixRoute (re : RegexLib ρ) {d : DeclaredRule} (hd : d ∈ declaredRules routers)
    (hserves : d.servesPrefix path method = true) :
    ∃ r ∈ (addRouters re routers).prefixRoutes, r.pathPrefix = d.rule.path ∧
      r.routerIndex = d.routerIndex ∧
      (startsWith path r.pathPrefix && methodMatches r.methods method) = true := by
  have hany := hserves
  rw [← DeclaredRule.any_prefixRoute?] at hany
  cases hr : d.prefixRoute? with
  | none => simp [hr] at hany
  | some r =>
      refine ⟨r, ?_, (prefixRoute?_eq_some hr).1, (prefixRoute?_eq_some hr).2, ?_⟩
      · rw [prefixRoutes_eq]
        exact List.mem_filterMap.mpr ⟨d, hd, hr⟩
      · rw [servesPrefix_of_prefixRoute? hr, hserves]

/-- An entry of the table that serves the request is not longer than the longest
rules. -/
theorem longerFirst_eq_false {d : DeclaredRule}
    (hd : LongestPrefix (declaredRules routers) path method d) {r r' : PrefixRoute}
    (hr : r.pathPrefix = d.rule.path) (hr' : r' ∈ (addRouters re routers).prefixRoutes)
    (hserves' : (startsWith path r'.pathPrefix && methodMatches r'.methods method) = true) :
    longerFirst r' r = false := by
  rw [prefixRoutes_eq] at hr'
  rcases List.mem_filterMap.mp hr' with ⟨d', hd', hroute'⟩
  rw [servesPrefix_of_prefixRoute? hroute'] at hserves'
  have hle := hd.longest d' hd' hserves'
  apply decide_eq_false
  rw [hr, (prefixRoute?_eq_some hroute').1]
  omega

/-- **Each of the longest rules** is selected by the prefix tier under some sort. -/
theorem exists_prefixTier_eq (re : RegexLib ρ) {d : DeclaredRule}
    (hd : LongestPrefix (declaredRules routers) path method d) :
    ∃ sort, prefixTier sort re routers path method = some d.routerIndex := by
  rcases exists_prefixRoute re hd.mem hd.serves with ⟨r, hr, hpath, hindex, hserves⟩
  have hmax : ∀ r' ∈ (addRouters re routers).prefixRoutes,
      (startsWith path r'.pathPrefix && methodMatches r'.methods method) = true →
        longerFirst r' r = false := by
    intro r' hr' hserves'
    exact longerFirst_eq_false hd hpath hr' hserves'
  rcases UnstableSort.exists_find?_sort_eq longerFirst_asymm longerFirst_trans
    (p := fun r => startsWith path r.pathPrefix && methodMatches r.methods method) hr hserves hmax
    with ⟨sort, hfind⟩
  refine ⟨sort, ?_⟩
  rw [prefixTier, hfind, Option.map_some, hindex]

/-- If the longest rules are all of one router, the prefix tier does not depend on
the sort. -/
theorem prefixTier_congr (sort' : UnstableSort longerFirst)
    (h : ∀ d₁ d₂, LongestPrefix (declaredRules routers) path method d₁ →
      LongestPrefix (declaredRules routers) path method d₂ → d₁.routerIndex = d₂.routerIndex) :
    prefixTier sort re routers path method = prefixTier sort' re routers path method := by
  apply option_eq_of_agree (prefixTier_eq_none_iff.trans prefixTier_eq_none_iff.symm)
  intro i i' htier htier'
  rcases prefixTier_eq_some htier with ⟨d, hd, rfl⟩
  rcases prefixTier_eq_some htier' with ⟨d', hd', rfl⟩
  exact h d d' hd hd'

/-- Without an exact rule, a prefix rule that serves the request decides. -/
theorem matched_of_prefixTier (hexact : ∀ d ∈ declaredRules routers, d.servesExact path method = false)
    {i : Nat} (htier : prefixTier sort re routers path method = some i) :
    (build sort re routers).matched re path method = some i := by
  have hfind : (declaredRules routers).find? (·.servesExact path method) = none := by
    rw [List.find?_eq_none]
    intro d hd
    simp [hexact d hd]
  rw [matched_build_eq, hfind, htier]
  rfl

end RoutingTables

/-- **Equal prefixes resolved by declaration order.**  For a request that no exact
rule serves: the router of the first declared rule among the longest ones is selected
under every sort, and no two sorts disagree, exactly when the longest rules are all
of one router. -/
theorem prefixTies_resolved_iff {ρ : Type*} (re : RegexLib ρ) (routers : List RouterConfig)
    (path method : Str) (hexact : ∀ d ∈ declaredRules routers, d.servesExact path method = false) :
    ((∀ sort d, firstLongest (declaredRules routers) path method = some d →
        (RoutingTables.build sort re routers).matched re path method = some d.routerIndex) ∧
      ∀ sort sort', (RoutingTables.build sort re routers).matched re path method =
        (RoutingTables.build sort' re routers).matched re path method) ↔
      ∀ d₁ d₂, LongestPrefix (declaredRules routers) path method d₁ →
        LongestPrefix (declaredRules routers) path method d₂ → d₁.routerIndex = d₂.routerIndex := by
  constructor
  · rintro ⟨-, hsame⟩ d₁ d₂ hd₁ hd₂
    -- one sort prefers `d₁`, another `d₂`
    rcases RoutingTables.exists_prefixTier_eq re hd₁ with ⟨sort₁, htier₁⟩
    rcases RoutingTables.exists_prefixTier_eq re hd₂ with ⟨sort₂, htier₂⟩
    have h := hsame sort₁ sort₂
    rw [RoutingTables.matched_of_prefixTier hexact htier₁,
      RoutingTables.matched_of_prefixTier hexact htier₂] at h
    exact Option.some.inj h
  · intro hone
    constructor
    · intro sort d hfirst
      have hd := longestPrefix_of_firstLongest hfirst
      cases htier : RoutingTables.prefixTier sort re routers path method with
      | none =>
          have hserves := hd.serves
          rw [RoutingTables.prefixTier_eq_none_iff.mp htier d hd.mem] at hserves
          cases hserves
      | some i =>
          rcases RoutingTables.prefixTier_eq_some htier with ⟨d', hd', rfl⟩
          rw [RoutingTables.matched_of_prefixTier hexact htier, hone d d' hd hd']
    · intro sort sort'
      rw [RoutingTables.matched_build_eq, RoutingTables.matched_build_eq,
        RoutingTables.prefixTier_congr sort' hone]

namespace Sample

/-- A rule for everything under `/api`. -/
def apiRule : RouterRule := { path := str "/api", pathType := .pathPrefix }

/-- Routers `a`, `b`, … with the same prefix rule. -/
def apiRouters (n : Nat) : List RouterConfig :=
  (List.range n).map fun i => { metadata := { name := [UInt8.ofNat (97 + i)] }, rules := [apiRule] }

/-- A router with two rules for the prefix, and one for everything else. -/
def apiTwice : List RouterConfig :=
  [{ metadata := { name := str "rest" }, rules := [{ path := str "/", pathType := .pathPrefix }] },
    { metadata := { name := str "api" }, rules := [{ apiRule with methods := [str "GET"] }, apiRule] }]

/-- No pattern compiles. -/
def noRegex : RegexLib Unit := { compile := fun _ => none, regexMatch := fun _ _ => false }

end Sample

/-- Two rules with the longest prefix, but of one router: it is selected in every order,
before the router for everything else. -/
theorem api_twice_resolved :
    (∀ sort d, firstLongest (declaredRules Sample.apiTwice) (str "/api/x") (str "GET") = some d →
        (RoutingTables.build sort Sample.noRegex Sample.apiTwice).matched Sample.noRegex
          (str "/api/x") (str "GET") = some d.routerIndex) ∧
      ∀ sort sort', (RoutingTables.build sort Sample.noRegex Sample.apiTwice).matched Sample.noRegex
          (str "/api/x") (str "GET") =
        (RoutingTables.build sort' Sample.noRegex Sample.apiTwice).matched Sample.noRegex
          (str "/api/x") (str "GET") := by
  apply (prefixTies_resolved_iff Sample.noRegex Sample.apiTwice (str "/api/x") (str "GET") (by decide)).mpr
  have hindex : ∀ d, LongestPrefix (declaredRules Sample.apiTwice) (str "/api/x") (str "GET") d →
      d.routerIndex = 1 := by
    intro d hd
    have hlong : ∀ d ∈ declaredRules Sample.apiTwice, 4 ≤ d.rule.path.length → d.routerIndex = 1 := by decide
    have hlongest := hd.longest ⟨1, Sample.apiRule⟩ (by decide) (by decide)
    exact hlong d hd.mem hlongest
  intro d₁ d₂ hd₁ hd₂
  rw [hindex d₁ hd₁, hindex d₂ hd₂]

/-- Seventeen routers with the same prefix: there is an order `std::sort` may leave
in which the ninth router is selected, though the first one is declared first. -/
theorem seventeen_api_routers_not_resolved :
    firstLongest (declaredRules (Sample.apiRouters 17)) (str "/api/x") (str "GET") =
        some ⟨0, Sample.apiRule⟩ ∧
      ∃ sort, (RoutingTables.build sort Sample.noRegex (Sample.apiRouters 17)).matched Sample.noRegex
        (str "/api/x") (str "GET") = some 8 := by
  refine ⟨by decide, ?_⟩
  have hninth : LongestPrefix (declaredRules (Sample.apiRouters 17)) (str "/api/x") (str "GET")
      ⟨8, Sample.apiRule⟩ := ⟨by decide, by decide, by decide⟩
  rcases RoutingTables.exists_prefixTier_eq Sample.noRegex hninth with ⟨sort, htier⟩
  exact ⟨sort, RoutingTables.matched_of_prefixTier (by decide) htier⟩

end Kimchi
