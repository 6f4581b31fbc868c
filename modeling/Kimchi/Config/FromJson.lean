import Kimchi.Config.Loader
import Kimchi.Library.Throwing

/-!
# What the `fromJson` functions read

A `fromJson` that returns has read every field it names, at every depth.  This
module states, for each of the five resources, where the values of the resulting
record come from.

The JSON side is a relation.  `ReadsSection` says that a value was read from an
optional field, `ReadsArray` that a list was read element by element from an
optional array, with as many elements and in the same order.

* `RouterConfig.readsArrays`, `ServiceConfig.readsArrays` — the lists of a loaded
  router and of a loaded service against the arrays of its document.
* `ListenerConfig.readsInts`, `PolicyConfig.readsInts`, `GatewayConfig.readsInts` and, for
  the elements of arrays, `LoadBalancingTarget.readsInts` and
  `RouterDestination.readsWeight` — the integers of each record against the integers that
  were read.
-/

namespace Kimchi

open Library

namespace Dynamic

/-- The field of an object, if the value is an object and has it. -/
def field? (d : Dynamic) (key : String) : Option Dynamic :=
  match d with
  | object fields => fields.lookup (str key)
  | _ => none

theorem getPtr_eq_some_iff {d v : Dynamic} {key : String} :
    d.getPtr key = .ok (some v) ↔ d.field? key = some v := by
  cases d with
  | object fields => simp [getPtr, field?]
  | _ => simp [getPtr, field?]

theorem index_eq_ok_iff {d v : Dynamic} {key : String} :
    d.index key = .ok v ↔ d.field? key = some v := by
  rw [← getPtr_eq_some_iff]
  unfold index
  rw [bind_eq_ok_iff]
  constructor
  · rintro ⟨found, hfound, h⟩
    cases found with
    | none => cases h
    | some w =>
        obtain rfl := Except.ok.inj h
        exact hfound
  · intro h
    exact ⟨some v, h, rfl⟩

theorem iterate_eq_ok_iff {d : Dynamic} {elems : List Dynamic} :
    d.iterate = .ok elems ↔ d = .array elems := by
  cases d <;> simp [iterate]

theorem getString_eq_ok_iff {d : Dynamic} {s : Str} : d.getString = .ok s ↔ d = .string s := by
  cases d <;> simp [getString]

end Dynamic

namespace Config

variable {α : Type}

/-- `x` was read from the field `key` by `R`, or is the value for a missing field. -/
def ReadsSection (node : Dynamic) (key : String) (absent : α) (R : Dynamic → α → Prop) (x : α) : Prop :=
  (node.getPtr key = .ok none ∧ x = absent) ∨ ∃ v, node.field? key = some v ∧ R v x

/-- `xs` was read element by element, by `R`, from the array in the field `key`. -/
def ReadsArray (node : Dynamic) (key : String) (R : Dynamic → α → Prop) (xs : List α) : Prop :=
  ReadsSection node key [] (fun v xs => ∃ elems, v = .array elems ∧ List.Forall₂ R elems xs) xs

/-- An element of a list of strings. -/
def IsText (v : Dynamic) (s : Str) : Prop := v = .string s

/-- `if (auto* node = d.get_ptr(key)) { ... }` around the assignment of one member. -/
def sectionOf (d : Dynamic) (key : String) (absent : α) (read : Dynamic → Except DynamicError α) :
    Except DynamicError α := do
  match ← d.getPtr key with
  | some node => read node
  | none => return absent

theorem sectionOf_eq_ok_iff {d : Dynamic} {key : String} {absent x : α}
    {read : Dynamic → Except DynamicError α} :
    sectionOf d key absent read = .ok x ↔ ReadsSection d key absent (fun v x => read v = .ok x) x := by
  unfold sectionOf ReadsSection
  rw [bind_eq_ok_iff]
  constructor
  · rintro ⟨found, hfound, h⟩
    cases found with
    | none =>
        obtain rfl := pure_eq_ok_iff.mp h
        exact Or.inl ⟨hfound, rfl⟩
    | some v => exact Or.inr ⟨v, Dynamic.getPtr_eq_some_iff.mp hfound, h⟩
  · rintro (⟨hnone, rfl⟩ | ⟨v, hv, h⟩)
    · exact ⟨none, hnone, rfl⟩
    · exact ⟨some v, Dynamic.getPtr_eq_some_iff.mpr hv, h⟩

theorem elementsOf_eq_ok_iff {d : Dynamic} {key : String} {elem : Dynamic → Except DynamicError α}
    {xs : List α} :
    elementsOf d key elem = .ok xs ↔ ReadsArray d key (fun v x => elem v = .ok x) xs := by
  have hsection : elementsOf d key elem =
      sectionOf d key [] fun list => list.iterate >>= fun elems => elems.mapM elem := rfl
  have hlist (v : Dynamic) (xs : List α) : (v.iterate >>= fun elems => elems.mapM elem) = .ok xs ↔
      ∃ elems, v = .array elems ∧ List.Forall₂ (fun v x => elem v = .ok x) elems xs := by
    rw [bind_eq_ok_iff]
    simp only [Dynamic.iterate_eq_ok_iff, mapM_eq_ok_iff]
  rw [hsection, sectionOf_eq_ok_iff]
  unfold ReadsArray
  simp only [hlist]

/-- A member of `std::optional` type that is filled when its field is present. -/
theorem optional_eq_ok_iff {d : Dynamic} {key : String} {read : Dynamic → Except DynamicError α}
    {x : Option α} :
    (d.getPtr key >>= fun found => found.mapM read) = .ok x ↔
      ReadsSection d key none (fun v x => ∃ y, read v = .ok y ∧ x = some y) x := by
  unfold ReadsSection
  simp only [bind_eq_ok_iff, optionMapM_eq_ok_iff, ← Dynamic.getPtr_eq_some_iff]
  constructor
  · rintro ⟨found, hfound, ⟨rfl, rfl⟩ | ⟨v, y, rfl, hy, rfl⟩⟩
    · exact Or.inl ⟨hfound, rfl⟩
    · exact Or.inr ⟨v, hfound, y, hy, rfl⟩
  · rintro (⟨hnone, rfl⟩ | ⟨v, hv, y, hy, rfl⟩)
    · exact ⟨none, hnone, Or.inl ⟨rfl, rfl⟩⟩
    · exact ⟨some v, hv, Or.inr ⟨v, y, rfl, hy, rfl⟩⟩

theorem ReadsSection.imp {node : Dynamic} {key : String} {absent x : α} {R S : Dynamic → α → Prop}
    (h : ReadsSection node key absent R x) (himp : ∀ v, R v x → S v x) :
    ReadsSection node key absent S x := by
  rcases h with habsent | ⟨v, hv, hread⟩
  · exact Or.inl habsent
  · exact Or.inr ⟨v, hv, himp v hread⟩

theorem ReadsArray.imp {node : Dynamic} {key : String} {xs : List α} {R S : Dynamic → α → Prop}
    (h : ReadsArray node key R xs) (himp : ∀ v x, R v x → S v x) : ReadsArray node key S xs := by
  refine ReadsSection.imp h ?_
  rintro v ⟨elems, rfl, hall⟩
  exact ⟨elems, rfl, List.Forall₂.imp himp hall⟩

/-- A field that is present was read. -/
theorem ReadsSection.of_field {node v : Dynamic} {key : String} {absent x : α} {R : Dynamic → α → Prop}
    (h : ReadsSection node key absent R x) (hv : node.field? key = some v) : R v x := by
  have hptr := Dynamic.getPtr_eq_some_iff.mpr hv
  rcases h with ⟨hnone, -⟩ | ⟨w, hw, hread⟩
  · rw [hptr] at hnone
    cases hnone
  · obtain rfl : v = w := Option.some.inj (hv.symm.trans hw)
    exact hread

/-- The `j`-th element of an array that is present became the `j`-th value. -/
theorem ReadsArray.getElem? {node v : Dynamic} {key : String} {xs : List α} {R : Dynamic → α → Prop}
    (h : ReadsArray node key R xs) {elems : List Dynamic} (harray : node.field? key = some (.array elems))
    {j : Nat} (hj : elems[j]? = some v) : ∃ x, xs[j]? = some x ∧ R v x := by
  obtain ⟨elems', heq, hall⟩ := ReadsSection.of_field h harray
  cases heq
  clear h harray
  induction hall generalizing j with
  | nil => simp at hj
  | cons hread hall ih =>
      cases j with
      | zero =>
          obtain rfl : _ = v := by simpa using hj
          exact ⟨_, rfl, hread⟩
      | succ j => exact ih (by simpa using hj)

/-- The beginning of every `fromJson` of a resource: the common fields, then the
section `spec`, which must be there. -/
theorem exists_spec_of_ok {d : Dynamic} {x : α}
    {rest : Str → Str → Metadata → Dynamic → Except DynamicError α}
    (h : (do
      let apiVersion ← getStr d "apiVersion"
      let kind ← getStr d "kind"
      let metadata ← metadataOf d
      let spec ← d.index "spec"
      rest apiVersion kind metadata spec) = .ok x) :
    ∃ apiVersion kind metadata spec, d.field? "spec" = some spec ∧
      rest apiVersion kind metadata spec = .ok x := by
  obtain ⟨apiVersion, -, h⟩ := bind_eq_ok_iff.mp h
  obtain ⟨kind, -, h⟩ := bind_eq_ok_iff.mp h
  obtain ⟨metadata, -, h⟩ := bind_eq_ok_iff.mp h
  obtain ⟨spec, hspec, h⟩ := bind_eq_ok_iff.mp h
  exact ⟨apiVersion, kind, metadata, spec, Dynamic.index_eq_ok_iff.mp hspec, h⟩

/-! ## Lists -/

theorem RouterRule.readsMethods {e : Dynamic} {rule : RouterRule} (h : RouterRule.fromJson e = .ok rule) :
    ReadsArray e "methods" IsText rule.methods := by
  unfold RouterRule.fromJson at h
  obtain ⟨path, -, h⟩ := bind_eq_ok_iff.mp h
  obtain ⟨found, -, h⟩ := bind_eq_ok_iff.mp h
  -- whichever way the path type was found, the methods are read next
  have hmethods : elementsOf e "methods" Dynamic.getString = .ok rule.methods := by
    cases found <;>
    · obtain ⟨pathType, -, h⟩ := bind_eq_ok_iff.mp h
      obtain ⟨methods, hmethods, h⟩ := bind_eq_ok_iff.mp h
      obtain rfl := pure_eq_ok_iff.mp h
      exact hmethods
  apply ReadsArray.imp (elementsOf_eq_ok_iff.mp hmethods)
  intro v s hread
  exact Dynamic.getString_eq_ok_iff.mp hread

/-- The router parser, one optional section after the other. -/
theorem RouterConfig.fromJson_eq (d : Dynamic) :
    RouterConfig.fromJson d = do
      let apiVersion ← getStr d "apiVersion"
      let kind ← getStr d "kind"
      let metadata ← metadataOf d
      let spec ← d.index "spec"
      let targetRefName ← sectionOf spec "targetRef" [] (getStr · "name")
      let rules ← elementsOf spec "rules" RouterRule.fromJson
      let destinations ←
        sectionOf spec "config" [] (elementsOf · "destinations" RouterDestination.fromJson)
      let policies ← elementsOf spec "policies" Dynamic.getString
      return { apiVersion, kind, metadata, targetRefName, rules, destinations, policies } := by
  unfold RouterConfig.fromJson sectionOf
  refine bind_congr fun apiVersion => bind_congr fun kind => bind_congr fun metadata => ?_
  refine bind_congr fun spec => ?_
  rw [bind_assoc]
  apply bind_congr
  intro ref
  cases ref <;>
  · refine bind_congr fun targetRefName => bind_congr fun rules => ?_
    rw [bind_assoc]
    apply bind_congr
    intro conf
    cases conf <;> rfl

/-- The lists of a router, read from the arrays of its document. -/
def RouterConfig.ReadsArrays (doc : Dynamic) (router : RouterConfig) : Prop :=
  ∃ spec, doc.field? "spec" = some spec ∧
    ReadsArray spec "rules" (fun e rule => RouterRule.fromJson e = .ok rule ∧
      ReadsArray e "methods" IsText rule.methods) router.rules ∧
    ReadsSection spec "config" [] (fun conf destinations =>
      ReadsArray conf "destinations" (fun e dest => RouterDestination.fromJson e = .ok dest)
        destinations) router.destinations ∧
    ReadsArray spec "policies" IsText router.policies

theorem RouterConfig.readsArrays {doc : Dynamic} {router : RouterConfig}
    (h : RouterConfig.fromJson doc = .ok router) : router.ReadsArrays doc := by
  rw [RouterConfig.fromJson_eq] at h
  obtain ⟨apiVersion, kind, metadata, spec, hspec, h⟩ := exists_spec_of_ok h
  obtain ⟨targetRefName, -, h⟩ := bind_eq_ok_iff.mp h
  obtain ⟨rules, hrules, h⟩ := bind_eq_ok_iff.mp h
  obtain ⟨destinations, hdestinations, h⟩ := bind_eq_ok_iff.mp h
  obtain ⟨policies, hpolicies, h⟩ := bind_eq_ok_iff.mp h
  obtain rfl := pure_eq_ok_iff.mp h
  refine ⟨spec, hspec, ?_, ?_, ?_⟩
  · apply ReadsArray.imp (elementsOf_eq_ok_iff.mp hrules)
    intro e rule hrule
    exact ⟨hrule, RouterRule.readsMethods hrule⟩
  · apply ReadsSection.imp (sectionOf_eq_ok_iff.mp hdestinations)
    intro conf hconf
    exact elementsOf_eq_ok_iff.mp hconf
  · apply ReadsArray.imp (elementsOf_eq_ok_iff.mp hpolicies)
    intro v s hread
    exact Dynamic.getString_eq_ok_iff.mp hread

theorem ServiceConfig.fromJson_eq (d : Dynamic) :
    ServiceConfig.fromJson d = do
      let apiVersion ← getStr d "apiVersion"
      let kind ← getStr d "kind"
      let metadata ← metadataOf d
      let spec ← d.index "spec"
      let protocol ← getStr spec "protocol" "HTTP"
      let loadBalancing ← sectionOf spec "loadBalancing" {} LoadBalancingConfig.fromJson
      return { apiVersion, kind, metadata, protocol, loadBalancing } := by
  unfold ServiceConfig.fromJson sectionOf
  refine bind_congr fun apiVersion => bind_congr fun kind => bind_congr fun metadata => ?_
  refine bind_congr fun spec => bind_congr fun protocol => ?_
  rw [bind_assoc]
  apply bind_congr
  intro lb
  cases lb <;> rfl

/-- The targets of a service, read from the array of its document. -/
def ServiceConfig.ReadsArrays (doc : Dynamic) (service : ServiceConfig) : Prop :=
  ∃ spec, doc.field? "spec" = some spec ∧
    ReadsSection spec "loadBalancing" {} (fun lb cfg =>
      ReadsArray lb "targets" (fun e target => LoadBalancingTarget.fromJson e = .ok target) cfg.targets)
      service.loadBalancing

theorem ServiceConfig.readsArrays {doc : Dynamic} {service : ServiceConfig}
    (h : ServiceConfig.fromJson doc = .ok service) : service.ReadsArrays doc := by
  rw [ServiceConfig.fromJson_eq] at h
  obtain ⟨apiVersion, kind, metadata, spec, hspec, h⟩ := exists_spec_of_ok h
  obtain ⟨protocol, -, h⟩ := bind_eq_ok_iff.mp h
  obtain ⟨loadBalancing, hlb, h⟩ := bind_eq_ok_iff.mp h
  obtain rfl := pure_eq_ok_iff.mp h
  refine ⟨spec, hspec, ?_⟩
  apply ReadsSection.imp (sectionOf_eq_ok_iff.mp hlb)
  intro lb hlb
  unfold LoadBalancingConfig.fromJson at hlb
  obtain ⟨algorithm, -, hlb⟩ := bind_eq_ok_iff.mp hlb
  obtain ⟨targets, htargets, hlb⟩ := bind_eq_ok_iff.mp hlb
  obtain rfl := pure_eq_ok_iff.mp hlb
  exact elementsOf_eq_ok_iff.mp htargets

/-! ## Integers -/

/-- `x` is the integer that `getInt` gives for the field `key`, narrowed by `cast`. -/
def ReadsInt (node : Dynamic) (key : String) (dflt : Int64) (cast : Int64 → α) (x : α) : Prop :=
  ∃ n, getInt node key dflt = .ok n ∧ x = cast n

/-- An integer that is present was narrowed and stored. -/
theorem ReadsInt.of_field {node : Dynamic} {key : String} {dflt n : Int64} {cast : Int64 → α} {x : α}
    (h : ReadsInt node key dflt cast x) (hn : node.field? key = some (.int64 n)) : x = cast n := by
  obtain ⟨m, hm, rfl⟩ := h
  unfold getInt at hm
  rw [Dynamic.getPtr_eq_some_iff.mpr hn] at hm
  rw [Except.ok.inj hm]

theorem ListenerConfig.readsInts {doc : Dynamic} {cfg : ListenerConfig}
    (h : ListenerConfig.fromJson doc = .ok cfg) :
    ∃ spec, doc.field? "spec" = some spec ∧ ReadsInt spec "port" 18000 castUInt16 cfg.port ∧
      ReadsSection spec "connection" none (fun conn x => ∃ cc : ConnectionConfig, x = some cc ∧
        ReadsInt conn "maxConnections" 0 castInt32 cc.maxConnections) cfg.connection := by
  unfold ListenerConfig.fromJson at h
  obtain ⟨apiVersion, kind, metadata, spec, hspec, h⟩ := exists_spec_of_ok h
  obtain ⟨protocol, -, h⟩ := bind_eq_ok_iff.mp h
  obtain ⟨port, hport, h⟩ := bind_eq_ok_iff.mp h
  obtain ⟨host, -, h⟩ := bind_eq_ok_iff.mp h
  obtain ⟨allowedHostnames, -, h⟩ := bind_eq_ok_iff.mp h
  obtain ⟨tlsNode, -, h⟩ := bind_eq_ok_iff.mp h
  obtain ⟨tls, -, h⟩ := bind_eq_ok_iff.mp h
  obtain ⟨conn, hconn, h⟩ := bind_eq_ok_iff.mp h
  obtain ⟨connection, hconnection, h⟩ := bind_eq_ok_iff.mp h
  obtain rfl := pure_eq_ok_iff.mp h
  refine ⟨spec, hspec, ⟨port, hport, rfl⟩, ?_⟩
  apply ReadsSection.imp (optional_eq_ok_iff.mp (bind_eq_ok_iff.mpr ⟨conn, hconn, hconnection⟩))
  rintro node ⟨cc, hcc, hsome⟩
  unfold ConnectionConfig.fromJson at hcc
  obtain ⟨readTimeout, -, hcc⟩ := bind_eq_ok_iff.mp hcc
  obtain ⟨writeTimeout, -, hcc⟩ := bind_eq_ok_iff.mp hcc
  obtain ⟨maxConnections, hmax, hcc⟩ := bind_eq_ok_iff.mp hcc
  obtain rfl := pure_eq_ok_iff.mp hcc
  exact ⟨_, hsome, maxConnections, hmax, rfl⟩

theorem LoadBalancingTarget.readsInts {t : Dynamic} {target : LoadBalancingTarget}
    (h : LoadBalancingTarget.fromJson t = .ok target) :
    ReadsInt t "port" 80 castUInt16 target.port ∧ ReadsInt t "weight" 1 castInt32 target.weight := by
  unfold LoadBalancingTarget.fromJson at h
  obtain ⟨host, -, h⟩ := bind_eq_ok_iff.mp h
  obtain ⟨port, hport, h⟩ := bind_eq_ok_iff.mp h
  obtain ⟨weight, hweight, h⟩ := bind_eq_ok_iff.mp h
  obtain rfl := pure_eq_ok_iff.mp h
  exact ⟨⟨port, hport, rfl⟩, weight, hweight, rfl⟩

theorem RouterDestination.readsWeight {e : Dynamic} {dest : RouterDestination}
    (h : RouterDestination.fromJson e = .ok dest) : ReadsInt e "weight" 100 castInt32 dest.weight := by
  unfold RouterDestination.fromJson at h
  obtain ⟨found, -, h⟩ := bind_eq_ok_iff.mp h
  -- the reference was read or is missing; the weight comes after it
  cases found with
  | none =>
      obtain ⟨ref, -, h⟩ := bind_eq_ok_iff.mp h
      obtain ⟨weight, hweight, h⟩ := bind_eq_ok_iff.mp h
      obtain ⟨rw, -, h⟩ := bind_eq_ok_iff.mp h
      obtain ⟨rewrite, -, h⟩ := bind_eq_ok_iff.mp h
      obtain rfl := pure_eq_ok_iff.mp h
      exact ⟨weight, hweight, rfl⟩
  | some node =>
      obtain ⟨destinationKind, -, h⟩ := bind_eq_ok_iff.mp h
      obtain ⟨destinationName, -, h⟩ := bind_eq_ok_iff.mp h
      obtain ⟨ref, -, h⟩ := bind_eq_ok_iff.mp h
      obtain ⟨weight, hweight, h⟩ := bind_eq_ok_iff.mp h
      obtain ⟨rw, -, h⟩ := bind_eq_ok_iff.mp h
      obtain ⟨rewrite, -, h⟩ := bind_eq_ok_iff.mp h
      obtain rfl := pure_eq_ok_iff.mp h
      exact ⟨weight, hweight, rfl⟩

theorem PolicyConfig.readsInts {doc : Dynamic} {cfg : PolicyConfig}
    (h : PolicyConfig.fromJson doc = .ok cfg) :
    ∃ spec, doc.field? "spec" = some spec ∧ ReadsInt spec "order" 0 castInt32 cfg.spec.order ∧
      ReadsSection spec "security" none (fun sec x => ∃ secSpec : SecurityPolicySpec, x = some secSpec ∧
        ReadsSection sec "jwt" none (fun jwt y => ∃ jwtCfg : JwtConfig, y = some jwtCfg ∧
          ReadsInt jwt "cacheTtlSeconds" 300 castInt32 jwtCfg.cacheTtlSeconds) secSpec.jwt)
        cfg.spec.security := by
  unfold PolicyConfig.fromJson at h
  obtain ⟨apiVersion, kind, metadata, spec, hspec, h⟩ := exists_spec_of_ok h
  obtain ⟨order, horder, h⟩ := bind_eq_ok_iff.mp h
  obtain ⟨sec, hsec, h⟩ := bind_eq_ok_iff.mp h
  obtain ⟨security, hsecurity, h⟩ := bind_eq_ok_iff.mp h
  obtain rfl := pure_eq_ok_iff.mp h
  refine ⟨spec, hspec, ⟨order, horder, rfl⟩, ?_⟩
  apply ReadsSection.imp (optional_eq_ok_iff.mp (bind_eq_ok_iff.mpr ⟨sec, hsec, hsecurity⟩))
  rintro node ⟨secSpec, hsecSpec, hsome⟩
  refine ⟨secSpec, hsome, ?_⟩
  unfold SecurityPolicySpec.fromJson at hsecSpec
  obtain ⟨jwt, hjwt, hsecSpec⟩ := bind_eq_ok_iff.mp hsecSpec
  obtain ⟨jwtSection, hsection, hsecSpec⟩ := bind_eq_ok_iff.mp hsecSpec
  obtain rfl := pure_eq_ok_iff.mp hsecSpec
  apply ReadsSection.imp (optional_eq_ok_iff.mp (bind_eq_ok_iff.mpr ⟨jwt, hjwt, hsection⟩))
  rintro node' ⟨jwtCfg, hcfg, hsome'⟩
  unfold JwtConfig.fromJson at hcfg
  obtain ⟨jwksUri, -, hcfg⟩ := bind_eq_ok_iff.mp hcfg
  obtain ⟨issuer, -, hcfg⟩ := bind_eq_ok_iff.mp hcfg
  obtain ⟨audience, -, hcfg⟩ := bind_eq_ok_iff.mp hcfg
  obtain ⟨ttl, httl, hcfg⟩ := bind_eq_ok_iff.mp hcfg
  obtain rfl := pure_eq_ok_iff.mp hcfg
  exact ⟨_, hsome', ttl, httl, rfl⟩

/-- The five integers of the server section. -/
structure ServerTuningConfig.ReadsInts (srv : Dynamic) (tuning : ServerTuningConfig) : Prop where
  workerThreads : ReadsInt srv "workerThreads" 0 castInt32 tuning.workerThreads
  idleTimeoutMs : ReadsInt srv "idleTimeoutMs" 60000 castInt32 tuning.idleTimeoutMs
  listenBacklog : ReadsInt srv "listenBacklog" 1024 castInt32 tuning.listenBacklog
  maxConcurrentStreams : ReadsInt srv "maxConcurrentStreams" 100 castInt32 tuning.maxConcurrentStreams
  initialReceiveWindowBytes :
    ReadsInt srv "initialReceiveWindowBytes" 65536 castInt32 tuning.initialReceiveWindowBytes

theorem ServerTuningConfig.readsInts {srv : Dynamic} {tuning : ServerTuningConfig}
    (h : ServerTuningConfig.fromJson srv = .ok tuning) : tuning.ReadsInts srv := by
  unfold ServerTuningConfig.fromJson at h
  obtain ⟨workerThreads, hworkers, h⟩ := bind_eq_ok_iff.mp h
  obtain ⟨idleTimeoutMs, hidle, h⟩ := bind_eq_ok_iff.mp h
  obtain ⟨listenBacklog, hbacklog, h⟩ := bind_eq_ok_iff.mp h
  obtain ⟨maxConcurrentStreams, hstreams, h⟩ := bind_eq_ok_iff.mp h
  obtain ⟨initialReceiveWindowBytes, hwindow, h⟩ := bind_eq_ok_iff.mp h
  obtain ⟨useZeroCopy, -, h⟩ := bind_eq_ok_iff.mp h
  obtain rfl := pure_eq_ok_iff.mp h
  exact ⟨⟨workerThreads, hworkers, rfl⟩, ⟨idleTimeoutMs, hidle, rfl⟩, ⟨listenBacklog, hbacklog, rfl⟩,
    ⟨maxConcurrentStreams, hstreams, rfl⟩, ⟨initialReceiveWindowBytes, hwindow, rfl⟩⟩

theorem GatewayConfig.fromJson_eq (d : Dynamic) :
    GatewayConfig.fromJson d = do
      let apiVersion ← getStr d "apiVersion"
      let kind ← getStr d "kind"
      let metadata ← metadataOf d
      let spec ← d.index "spec"
      let accessLog ← sectionOf spec "observability" {} fun obs =>
        sectionOf obs "accessLog" {} AccessLogConfig.fromJson
      let server ← sectionOf spec "server" {} ServerTuningConfig.fromJson
      return { apiVersion, kind, metadata, accessLog, server } := by
  have hserver {β : Type} (spec : Dynamic) (k : ServerTuningConfig → Except DynamicError β) :
      (sectionOf spec "server" {} ServerTuningConfig.fromJson >>= k) =
        spec.getPtr "server" >>= fun srv =>
          match srv with
          | some srv => ServerTuningConfig.fromJson srv >>= k
          | none => pure {} >>= k := by
    unfold sectionOf
    rw [bind_assoc]
    apply bind_congr
    intro srv
    cases srv <;> rfl
  unfold GatewayConfig.fromJson
  refine bind_congr fun apiVersion => bind_congr fun kind => bind_congr fun metadata => ?_
  refine bind_congr fun spec => ?_
  simp only [hserver]
  unfold sectionOf
  rw [bind_assoc]
  apply bind_congr
  intro obs
  cases obs with
  | none => rfl
  | some obs =>
      dsimp only
      rw [bind_assoc]
      apply bind_congr
      intro al
      cases al <;> rfl

theorem GatewayConfig.readsInts {doc : Dynamic} {cfg : GatewayConfig}
    (h : GatewayConfig.fromJson doc = .ok cfg) :
    ∃ spec, doc.field? "spec" = some spec ∧
      ReadsSection spec "server" {} (fun srv tuning => tuning.ReadsInts srv) cfg.server := by
  rw [GatewayConfig.fromJson_eq] at h
  obtain ⟨apiVersion, kind, metadata, spec, hspec, h⟩ := exists_spec_of_ok h
  obtain ⟨accessLog, -, h⟩ := bind_eq_ok_iff.mp h
  obtain ⟨server, hserver, h⟩ := bind_eq_ok_iff.mp h
  obtain rfl := pure_eq_ok_iff.mp h
  refine ⟨spec, hspec, ?_⟩
  apply ReadsSection.imp (sectionOf_eq_ok_iff.mp hserver)
  intro srv hsrv
  exact ServerTuningConfig.readsInts hsrv

end Config

end Kimchi
