import Mathlib.Data.List.AList
import Kimchi.Config.Models
import Kimchi.Library.UnstableSort

/-!
# Route selection

The routing tables of `handler/gateway_handler_factory.cpp`: exact paths in a hash
table, prefixes in a vector sorted by length, regular expressions in declaration
order.  `std::regex` is a parameter, whose construction may fail, and `std::sort` an
arbitrary `UnstableSort`.

`RouteSpec` says what selection is for, as one scan over the declared rules, with no
table in it.

* `lookup_exactRoutes`, `prefixRoutes_eq`, `regexRoutes_eq` — each table holds the
  declared rules of its kind, in declaration order.
* `matched_refines_spec` — the router the tables select is the one the scan gives.
-/

namespace Kimchi

open Config Library

/-- `std::regex` with `std::regex_match`; construction may throw a `regex_error`. -/
structure RegexLib (ρ : Type*) where
  compile : Str → Option ρ
  regexMatch : Str → ρ → Bool

/-- An entry of the bucket of an exact path. -/
structure ExactRoute where
  methods : List Str
  routerIndex : Nat
  deriving DecidableEq, Repr

/-- An entry of the prefix table. -/
structure PrefixRoute where
  pathPrefix : Str
  methods : List Str
  routerIndex : Nat
  deriving DecidableEq, Repr

/-- An entry of the regex table, with its compiled pattern. -/
structure RegexRoute (ρ : Type*) where
  pattern : ρ
  methods : List Str
  routerIndex : Nat

/-- `exactRoutes_`, `prefixRoutes_` and `regexRoutes_`. -/
structure RoutingTables (ρ : Type*) where
  exactRoutes : AList fun _ : Str => List ExactRoute := ∅
  prefixRoutes : List PrefixRoute := []
  regexRoutes : List (RegexRoute ρ) := []

/-- The comparator of `prefixRoutes_`: longer prefixes first. -/
def longerFirst (a b : PrefixRoute) : Bool := a.pathPrefix.length > b.pathPrefix.length

theorem longerFirst_asymm (a b : PrefixRoute) (h : longerFirst a b = true) : longerFirst b a = false := by
  have hlonger : a.pathPrefix.length > b.pathPrefix.length := of_decide_eq_true h
  refine decide_eq_false ?_
  omega

/-- Not being longer is transitive, so the comparator is a strict weak ordering. -/
theorem longerFirst_trans (a b c : PrefixRoute) (hab : longerFirst b a = false)
    (hbc : longerFirst c b = false) : longerFirst c a = false := by
  have hab' : ¬ b.pathPrefix.length > a.pathPrefix.length := of_decide_eq_false hab
  have hbc' : ¬ c.pathPrefix.length > b.pathPrefix.length := of_decide_eq_false hbc
  refine decide_eq_false ?_
  omega

/-- `GatewayHandlerFactory::methodMatches`. -/
def methodMatches (allowed : List Str) (method : Str) : Bool :=
  allowed.isEmpty || allowed.any fun m => m = method

namespace RoutingTables

variable {ρ : Type*}

/-- The body of the loop over the rules of the router with index `i`. -/
def addRule (re : RegexLib ρ) (i : Nat) (tables : RoutingTables ρ) (rule : RouterRule) : RoutingTables ρ :=
  match rule.pathType with
  | .exact =>
      -- `exactRoutes_[rule.path]` makes an empty bucket on first use
      let bucket := (tables.exactRoutes.lookup rule.path).getD []
      { tables with
        exactRoutes := tables.exactRoutes.insert rule.path
          (bucket ++ [{ methods := rule.methods, routerIndex := i }]) }
  | .pathPrefix =>
      { tables with
        prefixRoutes := tables.prefixRoutes ++
          [{ pathPrefix := rule.path, methods := rule.methods, routerIndex := i }] }
  | .regex =>
      match re.compile rule.path with
      | some pattern =>
          { tables with
            regexRoutes := tables.regexRoutes ++
              [{ pattern := pattern, methods := rule.methods, routerIndex := i }] }
      | none =>
          -- an invalid pattern is logged and skipped
          tables

/-- The loops over the routers and their rules. -/
def addRouters (re : RegexLib ρ) (routers : List RouterConfig) : RoutingTables ρ :=
  routers.zipIdx.foldl (fun tables (router, i) => router.rules.foldl (addRule re i) tables) {}

/-- The tables the constructor leaves behind. -/
def build (sort : UnstableSort longerFirst) (re : RegexLib ρ) (routers : List RouterConfig) :
    RoutingTables ρ :=
  let tables := addRouters re routers
  { tables with prefixRoutes := sort.sort tables.prefixRoutes }

/-- The index of the router `onRequest` matches, tier after tier. -/
def matched (re : RegexLib ρ) (tables : RoutingTables ρ) (path method : Str) : Option Nat :=
  let exactHit :=
    (tables.exactRoutes.lookup path).bind fun bucket => bucket.find? fun r => methodMatches r.methods method
  match exactHit with
  | some r => some r.routerIndex
  | none =>
      -- also when the path has a bucket in which no entry allows the method
      match tables.prefixRoutes.find? fun r =>
          startsWith path r.pathPrefix && methodMatches r.methods method with
      | some r => some r.routerIndex
      | none =>
          (tables.regexRoutes.find? fun r =>
            re.regexMatch path r.pattern && methodMatches r.methods method).map (·.routerIndex)

end RoutingTables

/-! ## What selection is for -/

/-- A rule with the index of the router that declares it. -/
structure DeclaredRule where
  routerIndex : Nat
  rule : RouterRule
  deriving DecidableEq, Repr

/-- All rules, in (router, rule) declaration order. -/
def declaredRules (routers : List RouterConfig) : List DeclaredRule :=
  routers.zipIdx.flatMap fun (router, i) => router.rules.map fun rule => ⟨i, rule⟩

/-- The index of a declared rule is that of a router with the rule. -/
theorem mem_declaredRules_iff {routers : List RouterConfig} {d : DeclaredRule} :
    d ∈ declaredRules routers ↔ ∃ router, routers[d.routerIndex]? = some router ∧ d.rule ∈ router.rules := by
  simp only [declaredRules, List.mem_flatMap, List.mem_map]
  constructor
  · rintro ⟨⟨router, i⟩, hi, rule, hrule, rfl⟩
    exact ⟨router, List.mem_zipIdx_iff_getElem?.mp hi, hrule⟩
  · rintro ⟨router, hrouter, hrule⟩
    exact ⟨(router, d.routerIndex), List.mem_zipIdx_iff_getElem?.mpr hrouter, d.rule, hrule, rfl⟩

/-- A rule allows a method when its list of methods is empty or holds the method. -/
def Config.RouterRule.AllowsMethod (rule : RouterRule) (method : Str) : Prop :=
  rule.methods = [] ∨ method ∈ rule.methods

instance (rule : RouterRule) (method : Str) : Decidable (rule.AllowsMethod method) :=
  inferInstanceAs (Decidable (_ ∨ _))

theorem methodMatches_eq_decide (rule : RouterRule) (method : Str) :
    methodMatches rule.methods method = decide (rule.AllowsMethod method) := by
  have hiff : methodMatches rule.methods method = true ↔ rule.AllowsMethod method := by
    simp [methodMatches, RouterRule.AllowsMethod]
  rw [Bool.eq_iff_iff, hiff, decide_eq_true_iff]

namespace DeclaredRule

/-- An exact rule for this path that allows the method. -/
def servesExact (path method : Str) (d : DeclaredRule) : Bool :=
  d.rule.pathType = .exact && d.rule.path = path && d.rule.AllowsMethod method

/-- A prefix rule for this path that allows the method. -/
def servesPrefix (path method : Str) (d : DeclaredRule) : Bool :=
  d.rule.pathType = .pathPrefix && startsWith path d.rule.path && d.rule.AllowsMethod method

/-- A regex rule that compiles, matches the whole path and allows the method. -/
def servesRegex {ρ : Type*} (re : RegexLib ρ) (path method : Str) (d : DeclaredRule) : Bool :=
  d.rule.pathType = .regex && (re.compile d.rule.path).any (re.regexMatch path) &&
    d.rule.AllowsMethod method

end DeclaredRule

/-- **The precedence rule.**  The first exact rule that serves the request; without
one, a prefix rule of maximal length among those that serve it; without one, the
first regex rule; otherwise nothing. -/
inductive RouteSpec {ρ : Type*} (re : RegexLib ρ) (rules : List DeclaredRule) (path method : Str) :
    Option Nat → Prop
  | exact (d : DeclaredRule) (hfirst : rules.find? (·.servesExact path method) = some d) :
      RouteSpec re rules path method (some d.routerIndex)
  | pathPrefix (d : DeclaredRule) (hexact : ∀ d' ∈ rules, d'.servesExact path method = false)
      (hd : d ∈ rules) (hserves : d.servesPrefix path method = true)
      (hmax : ∀ d' ∈ rules, d'.servesPrefix path method = true →
        d'.rule.path.length ≤ d.rule.path.length) :
      RouteSpec re rules path method (some d.routerIndex)
  | regex (d : DeclaredRule) (hexact : ∀ d' ∈ rules, d'.servesExact path method = false)
      (hpathPrefix : ∀ d' ∈ rules, d'.servesPrefix path method = false)
      (hfirst : rules.find? (·.servesRegex re path method) = some d) :
      RouteSpec re rules path method (some d.routerIndex)
  | none (hexact : ∀ d' ∈ rules, d'.servesExact path method = false)
      (hpathPrefix : ∀ d' ∈ rules, d'.servesPrefix path method = false)
      (hregex : ∀ d' ∈ rules, d'.servesRegex re path method = false) :
      RouteSpec re rules path method none

/-! ## The tables hold the declared rules -/

namespace DeclaredRule

/-- The entry of the rule in the bucket of a path. -/
def exactRoute? (path : Str) (d : DeclaredRule) : Option ExactRoute :=
  if d.rule.pathType = .exact ∧ d.rule.path = path then
    some { methods := d.rule.methods, routerIndex := d.routerIndex }
  else none

/-- The entry of the rule among the prefixes. -/
def prefixRoute? (d : DeclaredRule) : Option PrefixRoute :=
  if d.rule.pathType = .pathPrefix then
    some { pathPrefix := d.rule.path, methods := d.rule.methods, routerIndex := d.routerIndex }
  else none

/-- The entry of the rule among the regular expressions. -/
def regexRoute? {ρ : Type*} (re : RegexLib ρ) (d : DeclaredRule) : Option (RegexRoute ρ) :=
  if d.rule.pathType = .regex then
    (re.compile d.rule.path).map fun pattern =>
      { pattern := pattern, methods := d.rule.methods, routerIndex := d.routerIndex }
  else none

end DeclaredRule

namespace RoutingTables

variable {ρ : Type*} (re : RegexLib ρ)

/-- Adding a declared rule. -/
def addDeclared (tables : RoutingTables ρ) (d : DeclaredRule) : RoutingTables ρ :=
  addRule re d.routerIndex tables d.rule

/-- The nested loops of the constructor are one loop over the declared rules. -/
theorem addRouters_eq (routers : List RouterConfig) :
    addRouters re routers = (declaredRules routers).foldl (addDeclared re) {} := by
  unfold addRouters declaredRules
  -- the outer loop starts each router with the tables the routers before it left
  generalize ({} : RoutingTables ρ) = tables
  induction routers.zipIdx generalizing tables with
  | nil => rfl
  | cons r rs ih =>
      rw [List.foldl_cons, ih, List.flatMap_cons, List.foldl_append, List.foldl_map]
      rfl

/-- What one rule adds to each table. -/
theorem addDeclared_tables (tables : RoutingTables ρ) (d : DeclaredRule) (path : Str) :
    ((addDeclared re tables d).exactRoutes.lookup path).getD [] =
        (tables.exactRoutes.lookup path).getD [] ++ (d.exactRoute? path).toList ∧
      (addDeclared re tables d).prefixRoutes = tables.prefixRoutes ++ d.prefixRoute?.toList ∧
      (addDeclared re tables d).regexRoutes = tables.regexRoutes ++ (d.regexRoute? re).toList := by
  unfold addDeclared addRule DeclaredRule.exactRoute? DeclaredRule.prefixRoute? DeclaredRule.regexRoute?
  cases hkind : d.rule.pathType with
  | exact =>
      by_cases hpath : d.rule.path = path
      · subst hpath
        simp
      · have hne : path ≠ d.rule.path := Ne.symm hpath
        simp [hpath, AList.lookup_insert_ne hne]
  | pathPrefix => simp
  | regex => cases hcompile : re.compile d.rule.path <;> simp

/-- Run lemma of the constructor's loop. -/
theorem foldl_addDeclared_tables (rules : List DeclaredRule) (tables : RoutingTables ρ) (path : Str) :
    ((rules.foldl (addDeclared re) tables).exactRoutes.lookup path).getD [] =
        (tables.exactRoutes.lookup path).getD [] ++ rules.filterMap (·.exactRoute? path) ∧
      (rules.foldl (addDeclared re) tables).prefixRoutes =
        tables.prefixRoutes ++ rules.filterMap (·.prefixRoute?) ∧
      (rules.foldl (addDeclared re) tables).regexRoutes =
        tables.regexRoutes ++ rules.filterMap (·.regexRoute? re) := by
  induction rules generalizing tables with
  | nil => simp
  | cons d rules ih =>
      obtain ⟨hexact, hpathPrefix, hregex⟩ := ih (addDeclared re tables d)
      obtain ⟨hexact₁, hpathPrefix₁, hregex₁⟩ := addDeclared_tables re tables d path
      rw [List.foldl_cons, hexact, hpathPrefix, hregex, hexact₁, hpathPrefix₁, hregex₁]
      simp only [List.append_assoc, List.filterMap_cons]
      refine ⟨?_, ?_, ?_⟩
      · cases d.exactRoute? path <;> rfl
      · cases d.prefixRoute? <;> rfl
      · cases d.regexRoute? re <;> rfl

variable (routers : List RouterConfig)

theorem lookup_exactRoutes (path : Str) :
    ((addRouters re routers).exactRoutes.lookup path).getD [] =
      (declaredRules routers).filterMap (·.exactRoute? path) := by
  have h := (foldl_addDeclared_tables re (declaredRules routers) {} path).1
  rw [← addRouters_eq] at h
  simpa using h

theorem prefixRoutes_eq :
    (addRouters re routers).prefixRoutes = (declaredRules routers).filterMap (·.prefixRoute?) := by
  have h := (foldl_addDeclared_tables re (declaredRules routers) {} []).2.1
  rw [← addRouters_eq] at h
  simpa using h

theorem regexRoutes_eq :
    (addRouters re routers).regexRoutes = (declaredRules routers).filterMap (·.regexRoute? re) := by
  have h := (foldl_addDeclared_tables re (declaredRules routers) {} []).2.2
  rw [← addRouters_eq] at h
  simpa using h

end RoutingTables

/-! ## Refinement -/

namespace DeclaredRule

variable {ρ : Type*} {re : RegexLib ρ} {path method : Str} {d : DeclaredRule}

theorem any_exactRoute? :
    (d.exactRoute? path).any (fun r => methodMatches r.methods method) = d.servesExact path method := by
  unfold exactRoute? servesExact
  by_cases h : d.rule.pathType = .exact ∧ d.rule.path = path
  · simp [h.1, h.2, methodMatches_eq_decide]
  · rw [if_neg h]
    rcases not_and_or.mp h with hkind | hpath
    · simp [hkind]
    · simp [hpath]

theorem any_prefixRoute? :
    d.prefixRoute?.any (fun r => startsWith path r.pathPrefix && methodMatches r.methods method) =
      d.servesPrefix path method := by
  unfold prefixRoute? servesPrefix
  by_cases h : d.rule.pathType = .pathPrefix
  · simp [h, methodMatches_eq_decide]
  · simp [h]

theorem any_regexRoute? :
    (d.regexRoute? re).any (fun r => re.regexMatch path r.pattern && methodMatches r.methods method) =
      d.servesRegex re path method := by
  unfold regexRoute? servesRegex
  by_cases h : d.rule.pathType = .regex
  · cases re.compile d.rule.path <;> simp [h, methodMatches_eq_decide]
  · simp [h]

end DeclaredRule

/-- Scanning a table made from rules is scanning the rules. -/
theorem find?_filterMap_routerIndex {α : Type*} {rules : List DeclaredRule} {entry : DeclaredRule → Option α}
    {index : α → Nat} (hindex : ∀ d r, entry d = some r → index r = d.routerIndex) (p : α → Bool) :
    ((rules.filterMap entry).find? p).map index =
      (rules.find? fun d => (entry d).any p).map (·.routerIndex) := by
  rw [List.find?_filterMap]
  cases hfind : rules.find? (fun d => (entry d).any p) with
  | none => rfl
  | some d =>
      have hany := List.find?_some hfind
      cases hentry : entry d with
      | none => simp [hentry] at hany
      | some r => simp [hentry, hindex d r hentry]

namespace RoutingTables

variable {ρ : Type*}

/-- The tiers, one after the other. -/
theorem matched_eq (re : RegexLib ρ) (tables : RoutingTables ρ) (path method : Str) :
    tables.matched re path method =
      ((((tables.exactRoutes.lookup path).getD []).find? fun r => methodMatches r.methods method).map
          (·.routerIndex)).or
        (((tables.prefixRoutes.find? fun r =>
            startsWith path r.pathPrefix && methodMatches r.methods method).map (·.routerIndex)).or
          ((tables.regexRoutes.find? fun r =>
            re.regexMatch path r.pattern && methodMatches r.methods method).map (·.routerIndex))) := by
  have hbucket : ((tables.exactRoutes.lookup path).bind fun bucket =>
      bucket.find? fun r => methodMatches r.methods method) =
        ((tables.exactRoutes.lookup path).getD []).find? fun r => methodMatches r.methods method := by
    cases tables.exactRoutes.lookup path <;> rfl
  unfold matched
  simp only [hbucket]
  cases ((tables.exactRoutes.lookup path).getD []).find? fun r => methodMatches r.methods method with
  | some r => rfl
  | none =>
      cases tables.prefixRoutes.find? fun r =>
          startsWith path r.pathPrefix && methodMatches r.methods method with
      | some r => rfl
      | none => rfl

theorem exactTier_eq (re : RegexLib ρ) (routers : List RouterConfig) (path method : Str) :
    ((((addRouters re routers).exactRoutes.lookup path).getD []).find? fun r =>
        methodMatches r.methods method).map (·.routerIndex) =
      ((declaredRules routers).find? (·.servesExact path method)).map (·.routerIndex) := by
  rw [lookup_exactRoutes, find?_filterMap_routerIndex]
  · simp only [DeclaredRule.any_exactRoute?]
  · intro d r hr
    unfold DeclaredRule.exactRoute? at hr
    split at hr
    · cases hr
      rfl
    · cases hr

theorem regexTier_eq (re : RegexLib ρ) (routers : List RouterConfig) (path method : Str) :
    ((addRouters re routers).regexRoutes.find? fun r =>
        re.regexMatch path r.pattern && methodMatches r.methods method).map (·.routerIndex) =
      ((declaredRules routers).find? (·.servesRegex re path method)).map (·.routerIndex) := by
  rw [regexRoutes_eq, find?_filterMap_routerIndex]
  · simp only [DeclaredRule.any_regexRoute?]
  · intro d r hr
    unfold DeclaredRule.regexRoute? at hr
    split at hr
    · obtain ⟨pattern, -, rfl⟩ := Option.map_eq_some_iff.mp hr
      rfl
    · cases hr

/-- An entry of the prefix table serves a request when its rule does. -/
theorem servesPrefix_of_prefixRoute? {d : DeclaredRule} {r : PrefixRoute} (h : d.prefixRoute? = some r)
    (path method : Str) :
    (startsWith path r.pathPrefix && methodMatches r.methods method) = d.servesPrefix path method := by
  rw [← DeclaredRule.any_prefixRoute?, h]
  rfl

theorem prefixRoute?_eq_some {d : DeclaredRule} {r : PrefixRoute} (h : d.prefixRoute? = some r) :
    r.pathPrefix = d.rule.path ∧ r.routerIndex = d.routerIndex := by
  unfold DeclaredRule.prefixRoute? at h
  split at h
  · cases h
    exact ⟨rfl, rfl⟩
  · cases h

/-- A hit in the sorted prefix table is a serving rule of maximal length, whatever
the sort did with prefixes of equal length. -/
theorem prefixTier_some (sort : UnstableSort longerFirst) (re : RegexLib ρ) {routers : List RouterConfig}
    {path method : Str} {r : PrefixRoute}
    (h : (sort.sort (addRouters re routers).prefixRoutes).find? (fun r =>
      startsWith path r.pathPrefix && methodMatches r.methods method) = some r) :
    ∃ d ∈ declaredRules routers, d.servesPrefix path method = true ∧ r.routerIndex = d.routerIndex ∧
      ∀ d' ∈ declaredRules routers, d'.servesPrefix path method = true →
        d'.rule.path.length ≤ d.rule.path.length := by
  -- the sort promises only that no later prefix is longer than an earlier one
  have hirr : ∀ a, longerFirst a a = false := by simp [longerFirst]
  obtain ⟨hmem, hserves, hmax⟩ := sort.find?_sort_eq_some hirr h
  rw [prefixRoutes_eq] at hmem hmax
  obtain ⟨d, hd, hr⟩ := List.mem_filterMap.mp hmem
  obtain ⟨hpath, hindex⟩ := prefixRoute?_eq_some hr
  rw [servesPrefix_of_prefixRoute? hr] at hserves
  refine ⟨d, hd, hserves, hindex, ?_⟩
  intro d' hd' hserves'
  have hany := hserves'
  rw [← DeclaredRule.any_prefixRoute?] at hany
  cases hr' : d'.prefixRoute? with
  | none => simp [hr'] at hany
  | some r' =>
      have hmem' : r' ∈ (declaredRules routers).filterMap (·.prefixRoute?) :=
        List.mem_filterMap.mpr ⟨d', hd', hr'⟩
      have hshorter := hmax r' hmem' (by rw [servesPrefix_of_prefixRoute? hr', hserves'])
      rw [longerFirst, hpath, (prefixRoute?_eq_some hr').1] at hshorter
      simpa using hshorter

theorem prefixTier_none (sort : UnstableSort longerFirst) (re : RegexLib ρ) {routers : List RouterConfig}
    {path method : Str}
    (h : (sort.sort (addRouters re routers).prefixRoutes).find? (fun r =>
      startsWith path r.pathPrefix && methodMatches r.methods method) = none) :
    ∀ d ∈ declaredRules routers, d.servesPrefix path method = false := by
  rw [sort.find?_sort_eq_none, prefixRoutes_eq] at h
  intro d hd
  rw [← DeclaredRule.any_prefixRoute?]
  cases hr : d.prefixRoute? with
  | none => rfl
  | some r => exact h r (List.mem_filterMap.mpr ⟨d, hd, hr⟩)

theorem matched_spec (sort : UnstableSort longerFirst) (re : RegexLib ρ) (routers : List RouterConfig)
    (path method : Str) :
    RouteSpec re (declaredRules routers) path method ((build sort re routers).matched re path method) := by
  rw [matched_eq]
  simp only [build]
  rw [exactTier_eq, regexTier_eq]
  cases hexact : (declaredRules routers).find? (·.servesExact path method) with
  | some d => exact .exact d hexact
  | none =>
      have hnoExact : ∀ d ∈ declaredRules routers, d.servesExact path method = false := by
        simpa using hexact
      cases hhit : (sort.sort (addRouters re routers).prefixRoutes).find? fun r =>
          startsWith path r.pathPrefix && methodMatches r.methods method with
      | some r =>
          obtain ⟨d, hd, hserves, hindex, hmax⟩ := prefixTier_some sort re hhit
          rw [Option.map_none, Option.none_or, Option.map_some, Option.some_or, hindex]
          exact .pathPrefix d hnoExact hd hserves hmax
      | none =>
          have hnoPrefix := prefixTier_none sort re hhit
          cases hregex : (declaredRules routers).find? (·.servesRegex re path method) with
          | some d => exact .regex d hnoExact hnoPrefix hregex
          | none => exact .none hnoExact hnoPrefix (by simpa using hregex)

end RoutingTables

/-- The precedence rule only ever selects a router that exists. -/
theorem RouteSpec.lt_length {ρ : Type*} {re : RegexLib ρ} {routers : List RouterConfig} {path method : Str}
    {i : Nat} (h : RouteSpec re (declaredRules routers) path method (some i)) : i < routers.length := by
  have hdeclared : ∃ d ∈ declaredRules routers, d.routerIndex = i := by
    cases h with
    | exact d hfirst => exact ⟨d, List.mem_of_find?_eq_some hfirst, rfl⟩
    | pathPrefix d _ hd _ _ => exact ⟨d, hd, rfl⟩
    | regex d _ _ hfirst => exact ⟨d, List.mem_of_find?_eq_some hfirst, rfl⟩
  obtain ⟨d, hd, rfl⟩ := hdeclared
  obtain ⟨router, hrouter, -⟩ := mem_declaredRules_iff.mp hd
  exact (List.getElem?_eq_some_iff.mp hrouter).1

/-- **Route selection refines the precedence rule**, for every set of routers, every
regular expression library, every order the sort may produce and every request; the
index it gives is that of a router. -/
theorem matched_refines_spec {ρ : Type*} (sort : UnstableSort longerFirst) (re : RegexLib ρ)
    (routers : List RouterConfig) (path method : Str) :
    RouteSpec re (declaredRules routers) path method
        ((RoutingTables.build sort re routers).matched re path method) ∧
      ∀ i, (RoutingTables.build sort re routers).matched re path method = some i → i < routers.length := by
  have hspec := RoutingTables.matched_spec sort re routers path method
  refine ⟨hspec, ?_⟩
  intro i hi
  rw [hi] at hspec
  exact hspec.lt_length

end Kimchi
