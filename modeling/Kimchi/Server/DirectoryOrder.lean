import Kimchi.Config.LoadedStore
import Kimchi.Handler.RouteCandidates
import Kimchi.Handler.ServiceDispatch
import Kimchi.Server.Startup

/-!
# Routing and the order of the configuration files

`std::filesystem::directory_iterator` enumerates a directory in an unspecified order,
and the order of the files is the order of declaration: it decides between routers
with overlapping rules and between services of one name.

`routing_orderIndependent_iff` says when it decides nothing for a request: the files
of the routers it may be matched to all hold the same router, and those of the
services with the name of its destination all hold the same service.
-/

namespace Kimchi

open Config Library

namespace GatewayHandlerFactory

variable {ρ : Type*} {platform : Platform ρ} {store : ConfigStore} {jwksCaches : JwksCaches}
  {msg : HTTPMessage} {router : RouterConfig}

theorem selectable_of_matchedRouter
    (h : (new platform store jwksCaches).matchedRouter platform msg = some router) :
    Selectable platform.re store.routers msg.path msg.method router := by
  rcases Option.bind_eq_some_iff.mp h with ⟨i, hmatched, hrouter⟩
  exact RoutingTables.selectable_of_matched hmatched hrouter

theorem matchedRouter_eq_none_iff :
    (new platform store jwksCaches).matchedRouter platform msg = none ↔
      ∀ router, ¬ Selectable platform.re store.routers msg.path msg.method router := by
  constructor
  · intro h
    suffices hnone : (RoutingTables.build platform.prefixSort platform.re store.routers).matched platform.re
        msg.path msg.method = none from RoutingTables.matched_eq_none_iff.mp hnone
    cases hmatched : (RoutingTables.build platform.prefixSort platform.re store.routers).matched platform.re
        msg.path msg.method with
    | none => rfl
    | some i =>
        have hspec := RoutingTables.matched_spec platform.prefixSort platform.re store.routers msg.path msg.method
        rw [hmatched] at hspec
        have hlt := hspec.lt_length
        have hrouter : store.routers[i]? = none := Option.bind_eq_none_iff.mp h i hmatched
        rw [List.getElem?_eq_getElem hlt] at hrouter
        cases hrouter
  · intro hnone
    cases hmatched : (new platform store jwksCaches).matchedRouter platform msg with
    | none => rfl
    | some router => exact absurd (selectable_of_matchedRouter hmatched) (hnone router)

/-- With ties left in declaration order, a selectable router that is declared first
is matched. -/
theorem matchedRouter_of_cons {rest : List RouterConfig} (hrouters : store.routers = router :: rest)
    (hsort : platform.prefixSort = RoutingTables.byDeclaration)
    (h : Selectable platform.re store.routers msg.path msg.method router) :
    (new platform store jwksCaches).matchedRouter platform msg = some router := by
  rw [hrouters] at h
  have hmatched := RoutingTables.matched_cons_of_selectable h
  rw [← hrouters, ← hsort] at hmatched
  change ((RoutingTables.build platform.prefixSort platform.re store.routers).matched platform.re
    msg.path msg.method).bind (fun i => store.routers[i]?) = some router
  rw [hmatched, hrouters]
  rfl

/-- A name is looked up as the configuration of a service that has it. -/
theorem lookup_config_eq_some {name : Str} {svc : ServiceConfig}
    (h : ((new platform store jwksCaches).serviceCache.lookup name).map (·.config) = some svc) :
    svc ∈ store.services ∧ svc.metadata.name = name := by
  rcases Option.map_eq_some_iff.mp h with ⟨cached, hlookup, rfl⟩
  rcases lookup_buildServiceCache_eq_some_iff.mp hlookup with ⟨i, svc, hfirst, rfl⟩
  exact ⟨hfirst.mem, hfirst.hit⟩

theorem lookup_config_of_cons {svc : ServiceConfig} {rest : List ServiceConfig}
    (hservices : store.services = svc :: rest) :
    ((new platform store jwksCaches).serviceCache.lookup svc.metadata.name).map (·.config) = some svc := by
  have hfirst : FirstNamed store.services svc.metadata.name 0 svc := by
    refine ⟨by rw [hservices]; rfl, rfl, ?_⟩
    intro k hk
    omega
  have hlookup : (new platform store jwksCaches).serviceCache.lookup svc.metadata.name =
      some (cachedService platform.dns svc 0) :=
    lookup_buildServiceCache_eq_some_iff.mpr ⟨0, svc, hfirst, rfl⟩
  rw [hlookup]
  rfl

end GatewayHandlerFactory

/-- Two gateways route a request alike: they match it to equal routers or to none,
and find the same service under the name of its destination. -/
def SameRoute {ρ : Type*} (platform : Platform ρ) (f₁ f₂ : GatewayHandlerFactory ρ) (msg : HTTPMessage) : Prop :=
  f₁.matchedRouter platform msg = f₂.matchedRouter platform msg ∧
    ∀ router destination, f₁.matchedRouter platform msg = some router →
      router.destinations.head? = some destination →
      (f₁.serviceCache.lookup destination.destinationName).map (·.config) =
        (f₂.serviceCache.lookup destination.destinationName).map (·.config)

/-- Two orders of the same files are loaded into gateways that route the request
alike, whatever order `std::sort` gives tied prefixes. -/
def OrderIndependent {ρ : Type*} (platform : Platform ρ) (jwksCaches : JwksCaches)
    (parseJson : Str → Option Dynamic) (entries : List DirEntry) (msg : HTTPMessage) : Prop :=
  ∀ (sort : UnstableSort longerFirst) (e₁ e₂ : List DirEntry) (store₁ store₂ : ConfigStore),
    e₁.Perm entries → e₂.Perm entries →
    loadFromDirectory parseJson (.listing e₁ none) = .ok store₁ →
    loadFromDirectory parseJson (.listing e₂ none) = .ok store₂ →
    SameRoute { platform with prefixSort := sort }
      (.new { platform with prefixSort := sort } store₁ jwksCaches)
      (.new { platform with prefixSort := sort } store₂ jwksCaches) msg

/-- The files agree on the request: on the router it may be matched to, and on the
service with the name of that router's first destination. -/
structure FilesAgree {ρ : Type*} (re : RegexLib ρ) (parseJson : Str → Option Dynamic)
    (entries : List DirEntry) (msg : HTTPMessage) : Prop where
  router : ∀ r₁ r₂,
    Selectable re ((documents parseJson entries).filterMap routerOf) msg.path msg.method r₁ →
    Selectable re ((documents parseJson entries).filterMap routerOf) msg.path msg.method r₂ → r₁ = r₂
  service : ∀ router destination,
    Selectable re ((documents parseJson entries).filterMap routerOf) msg.path msg.method router →
    router.destinations.head? = some destination →
    ∀ svc₁ ∈ (documents parseJson entries).filterMap serviceOf,
      ∀ svc₂ ∈ (documents parseJson entries).filterMap serviceOf,
        svc₁.metadata.name = destination.destinationName → svc₂.metadata.name = destination.destinationName →
        svc₁ = svc₂

/-- Any document can come first. -/
theorem exists_perm_documents_cons {parseJson : Str → Option Dynamic} {entries : List DirEntry} {doc : Dynamic}
    (h : doc ∈ documents parseJson entries) :
    ∃ e rest, e.Perm entries ∧ documents parseJson e = doc :: rest := by
  rcases List.mem_filterMap.mp h with ⟨entry, hentry, hdoc⟩
  rcases List.append_of_mem hentry with ⟨before, after, rfl⟩
  refine ⟨entry :: (before ++ after), documents parseJson (before ++ after), List.perm_middle.symm, ?_⟩
  rw [documents, List.filterMap_cons_some hdoc]
  rfl

section Order

variable {ρ : Type*} {platform : Platform ρ} {jwksCaches : JwksCaches} {parseJson : Str → Option Dynamic}
  {entries e e₁ e₂ : List DirEntry} {msg : HTTPMessage}

theorem routers_perm (he : e.Perm entries) :
    (storeOf (documents parseJson e)).routers.Perm ((documents parseJson entries).filterMap routerOf) :=
  (he.filterMap _).filterMap _

theorem services_perm (he : e.Perm entries) :
    (storeOf (documents parseJson e)).services.Perm ((documents parseJson entries).filterMap serviceOf) :=
  (he.filterMap _).filterMap _

/-- The factory built from the files in this order. -/
def factoryOf (platform : Platform ρ) (jwksCaches : JwksCaches) (parseJson : Str → Option Dynamic)
    (e : List DirEntry) : GatewayHandlerFactory ρ :=
  .new platform (storeOf (documents parseJson e)) jwksCaches

/-- Whatever the order, what a request is matched to is one of the candidates. -/
theorem selectable_of_factoryOf (he : e.Perm entries) {router : RouterConfig}
    (h : (factoryOf platform jwksCaches parseJson e).matchedRouter platform msg = some router) :
    Selectable platform.re ((documents parseJson entries).filterMap routerOf) msg.path msg.method router :=
  selectable_perm (routers_perm he) (GatewayHandlerFactory.selectable_of_matchedRouter h)

/-- Whatever the order, nothing is matched exactly when there is no candidate. -/
theorem factoryOf_eq_none_iff (he : e.Perm entries) :
    (factoryOf platform jwksCaches parseJson e).matchedRouter platform msg = none ↔
      ∀ router, ¬ Selectable platform.re ((documents parseJson entries).filterMap routerOf) msg.path
        msg.method router := by
  refine GatewayHandlerFactory.matchedRouter_eq_none_iff.trans (forall_congr' fun router => not_congr ?_)
  constructor
  · exact selectable_perm (routers_perm he)
  · exact selectable_perm (routers_perm he).symm

/-- The same for the services with a name. -/
theorem mem_of_factoryOf_lookup (he : e.Perm entries) {name : Str} {svc : ServiceConfig}
    (h : ((factoryOf platform jwksCaches parseJson e).serviceCache.lookup name).map (·.config) = some svc) :
    svc ∈ (documents parseJson entries).filterMap serviceOf ∧ svc.metadata.name = name := by
  rcases GatewayHandlerFactory.lookup_config_eq_some h with ⟨hmem, hname⟩
  exact ⟨(services_perm he).mem_iff.mp hmem, hname⟩

theorem factoryOf_lookup_eq_none_iff (he : e.Perm entries) {name : Str} :
    ((factoryOf platform jwksCaches parseJson e).serviceCache.lookup name).map (·.config) = none ↔
      ∀ svc ∈ (documents parseJson entries).filterMap serviceOf, svc.metadata.name ≠ name := by
  refine Option.map_eq_none_iff.trans (lookup_buildServiceCache_eq_none_iff.trans ?_)
  constructor
  · intro h svc hsvc
    exact h svc ((services_perm he).mem_iff.mpr hsvc)
  · intro h svc hsvc
    exact h svc ((services_perm he).mem_iff.mp hsvc)

/-- Files that agree on the request leave the order nothing to decide. -/
theorem sameRoute_of_filesAgree (h : FilesAgree platform.re parseJson entries msg) (he₁ : e₁.Perm entries)
    (he₂ : e₂.Perm entries) :
    SameRoute platform (factoryOf platform jwksCaches parseJson e₁)
      (factoryOf platform jwksCaches parseJson e₂) msg := by
  constructor
  · apply option_eq_of_agree ((factoryOf_eq_none_iff he₁).trans (factoryOf_eq_none_iff he₂).symm)
    intro r₁ r₂ hmatched₁ hmatched₂
    exact h.router r₁ r₂ (selectable_of_factoryOf he₁ hmatched₁) (selectable_of_factoryOf he₂ hmatched₂)
  · intro router destination hmatched hhead
    have hone := h.service router destination (selectable_of_factoryOf he₁ hmatched) hhead
    apply option_eq_of_agree
      ((factoryOf_lookup_eq_none_iff he₁).trans (factoryOf_lookup_eq_none_iff he₂).symm)
    intro svc₁ svc₂ hlookup₁ hlookup₂
    rcases mem_of_factoryOf_lookup he₁ hlookup₁ with ⟨hmem₁, hname₁⟩
    rcases mem_of_factoryOf_lookup he₂ hlookup₂ with ⟨hmem₂, hname₂⟩
    exact hone svc₁ hmem₁ svc₂ hmem₂ hname₁ hname₂

variable (platform jwksCaches)

/-- A candidate is matched under some order of the files. -/
theorem exists_factoryOf_eq (hsort : platform.prefixSort = RoutingTables.byDeclaration)
    {router : RouterConfig}
    (h : Selectable platform.re ((documents parseJson entries).filterMap routerOf) msg.path msg.method
      router) :
    ∃ e, e.Perm entries ∧
      (factoryOf platform jwksCaches parseJson e).matchedRouter platform msg = some router := by
  rcases List.mem_filterMap.mp h.1 with ⟨doc, hdoc, hrouter⟩
  rcases exists_perm_documents_cons hdoc with ⟨e, rest, he, hdocs⟩
  have hcons : (storeOf (documents parseJson e)).routers = router :: rest.filterMap routerOf := by
    change (documents parseJson e).filterMap routerOf = _
    rw [hdocs, List.filterMap_cons_some hrouter]
  refine ⟨e, he, GatewayHandlerFactory.matchedRouter_of_cons hcons hsort ?_⟩
  exact selectable_perm (routers_perm he).symm h

/-- A service is found under its name for some order of the files. -/
theorem exists_factoryOf_lookup_eq {svc : ServiceConfig}
    (h : svc ∈ (documents parseJson entries).filterMap serviceOf) :
    ∃ e, e.Perm entries ∧
      ((factoryOf platform jwksCaches parseJson e).serviceCache.lookup svc.metadata.name).map (·.config) =
        some svc := by
  rcases List.mem_filterMap.mp h with ⟨doc, hdoc, hservice⟩
  rcases exists_perm_documents_cons hdoc with ⟨e, rest, he, hdocs⟩
  have hcons : (storeOf (documents parseJson e)).services = svc :: rest.filterMap serviceOf := by
    change (documents parseJson e).filterMap serviceOf = _
    rw [hdocs, List.filterMap_cons_some hservice]
  exact ⟨e, he, GatewayHandlerFactory.lookup_config_of_cons hcons⟩

/-- If no order changes the route, the files agree on the request. -/
theorem filesAgree_of_sameRoute (hsort : platform.prefixSort = RoutingTables.byDeclaration)
    (h : ∀ e₁ e₂ : List DirEntry, e₁.Perm entries → e₂.Perm entries →
      SameRoute platform (factoryOf platform jwksCaches parseJson e₁)
        (factoryOf platform jwksCaches parseJson e₂) msg) :
    FilesAgree platform.re parseJson entries msg := by
  have hrouter : ∀ r₁ r₂,
      Selectable platform.re ((documents parseJson entries).filterMap routerOf) msg.path msg.method r₁ →
      Selectable platform.re ((documents parseJson entries).filterMap routerOf) msg.path msg.method r₂ →
      r₁ = r₂ := by
    intro r₁ r₂ hr₁ hr₂
    rcases exists_factoryOf_eq platform jwksCaches hsort hr₁ with ⟨e₁, he₁, hmatched₁⟩
    rcases exists_factoryOf_eq platform jwksCaches hsort hr₂ with ⟨e₂, he₂, hmatched₂⟩
    have hsame := (h e₁ e₂ he₁ he₂).1
    rw [hmatched₁, hmatched₂] at hsame
    exact Option.some.inj hsame
  refine ⟨hrouter, ?_⟩
  intro router destination hselect hhead svc₁ hsvc₁ svc₂ hsvc₂ hname₁ hname₂
  rcases exists_factoryOf_lookup_eq platform jwksCaches hsvc₁ with
    ⟨e₁, he₁, hlookup₁⟩
  rcases exists_factoryOf_lookup_eq platform jwksCaches hsvc₂ with
    ⟨e₂, he₂, hlookup₂⟩
  -- the request is matched to the one candidate there is
  have hmatched : (factoryOf platform jwksCaches parseJson e₁).matchedRouter platform msg = some router := by
    cases hmatched : (factoryOf platform jwksCaches parseJson e₁).matchedRouter platform msg with
    | none => exact absurd hselect ((factoryOf_eq_none_iff he₁).mp hmatched router)
    | some r => rw [hrouter r router (selectable_of_factoryOf he₁ hmatched) hselect]
  have hsame := (h e₁ e₂ he₁ he₂).2 router destination hmatched hhead
  rw [hname₁] at hlookup₁
  rw [hname₂] at hlookup₂
  rw [hlookup₁, hlookup₂] at hsame
  exact Option.some.inj hsame

end Order

/-- **Routing does not depend on the order of the files**, for a request and every
two orders in which the directory may be enumerated, exactly when the files of the
routers it may be matched to all hold the same router, and those of the services with
the name of its destination the same service. -/
theorem routing_orderIndependent_iff {ρ : Type*} (platform : Platform ρ) (jwksCaches : JwksCaches)
    (parseJson : Str → Option Dynamic) (entries : List DirEntry) (msg : HTTPMessage) :
    OrderIndependent platform jwksCaches parseJson entries msg ↔
      FilesAgree platform.re parseJson entries msg := by
  constructor
  · intro h
    refine filesAgree_of_sameRoute { platform with prefixSort := RoutingTables.byDeclaration } jwksCaches
      rfl ?_
    intro e₁ e₂ he₁ he₂
    exact h _ e₁ e₂ _ _ he₁ he₂ (loadFromDirectory_listing parseJson e₁)
      (loadFromDirectory_listing parseJson e₂)
  · intro h sort e₁ e₂ store₁ store₂ he₁ he₂ hload₁ hload₂
    rw [loadFromDirectory_listing] at hload₁ hload₂
    obtain rfl := Except.ok.inj hload₁
    obtain rfl := Except.ok.inj hload₂
    exact sameRoute_of_filesAgree h he₁ he₂

namespace Sample

/-- A router with the exact path `/a` for a service. -/
def exactDoc (service : String) : Dynamic :=
  obj [("kind", text "Router"),
    ("spec", obj [("rules", .array [obj [("path", text "/a"), ("pathType", text "Exact")]]),
      ("config", obj [("destinations", .array [obj [("destinationRef", obj [("name", text service)])]])])])]

/-- The text of a router with an exact rule for `/a`. -/
def exactText (service : String) : Str :=
  str ("\x7b\"kind\":\"Router\",\"spec\":\x7b\"rules\":[\x7b\"path\":\"/a\",\"pathType\":\"Exact\"\x7d]," ++
    "\"config\":\x7b\"destinations\":[\x7b\"destinationRef\":\x7b\"name\":\"" ++ service ++ "\"\x7d\x7d]\x7d\x7d\x7d")

/-- `folly::parseJson` on the two texts. -/
def parseExact (content : Str) : Option Dynamic :=
  if content = exactText "s" then some (exactDoc "s")
  else if content = exactText "t" then some (exactDoc "t")
  else none

/-- The router as it is stored. -/
def exactRouter (service : String) : RouterConfig :=
  { kind := str "Router"
    rules := [{ path := str "/a", pathType := .exact }]
    destinations := [{ destinationName := str service }] }

/-- `GET /a`. -/
def getA : HTTPMessage := ⟨str "GET", str "/a", str "/a", [], []⟩

end Sample

/-- Two router files with the same exact path: a request for it is matched to the
router of whichever file is enumerated first. -/
theorem exact_routers_order_dependent :
    ∃ store₁ store₂,
      loadFromDirectory Sample.parseExact
        (.listing [Sample.jsonFile (Sample.exactText "s"), Sample.jsonFile (Sample.exactText "t")] none) =
          .ok store₁ ∧
      loadFromDirectory Sample.parseExact
        (.listing [Sample.jsonFile (Sample.exactText "t"), Sample.jsonFile (Sample.exactText "s")] none) =
          .ok store₂ ∧
      (GatewayHandlerFactory.new Sample.platform store₁ ∅).matchedRouter Sample.platform Sample.getA =
        some (Sample.exactRouter "s") ∧
      (GatewayHandlerFactory.new Sample.platform store₂ ∅).matchedRouter Sample.platform Sample.getA =
        some (Sample.exactRouter "t") ∧
      Sample.exactRouter "s" ≠ Sample.exactRouter "t" :=
  ⟨{ routers := [Sample.exactRouter "s", Sample.exactRouter "t"] },
    { routers := [Sample.exactRouter "t", Sample.exactRouter "s"] }, rfl, rfl, rfl, rfl, by decide⟩

end Kimchi
