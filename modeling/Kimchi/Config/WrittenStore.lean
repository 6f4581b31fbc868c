import Kimchi.Config.Formats

/-!
# Accepted documents and written stores

`dispatchDocument` does not throw exactly on the well-formed documents: objects that,
if they name one of the five kinds, have the shape of that kind.

* `applyJsonDocument_spec` — what a text does to a store.
* `loadFromDirectory_written` — a directory that holds the documents of a store, in any
  order that keeps the documents of each kind in theirs and among any other documents,
  is loaded as that store.
-/

namespace Kimchi
namespace Config

open Library

/-! ## Well-formed documents -/

/-- The shape of the documents of a kind; a document of another kind is not read. -/
def kindShape (kind : Str) : Dynamic → Bool :=
  if kind = str "Listener" then ListenerConfig.format.shape
  else if kind = str "Router" then RouterConfig.format.shape
  else if kind = str "Service" then ServiceConfig.format.shape
  else if kind = str "Gateway" then GatewayConfig.format.shape
  else if kind = str "Policy" then PolicyConfig.format.shape
  else fun _ => true

/-- An object that has the shape of its kind, if it names one. -/
def wellFormed (doc : Dynamic) : Bool := doc.isObject && (docKind doc).all fun kind => kindShape kind doc

theorem isOk_storing {α : Type} (parsed : Except DynamicError α) (update : α → ConfigStore) (store : ConfigStore) :
    (storing parsed update store).1.isOk = parsed.isOk := by
  cases parsed <;> rfl

/-- **A document throws exactly when it is not well-formed.** -/
theorem isOk_dispatchDocument (doc : Dynamic) (store : ConfigStore) :
    (dispatchDocument doc store).1.isOk = wellFormed doc := by
  cases doc with
  | object fields =>
      unfold dispatchDocument wellFormed docKind
      simp only [Dynamic.getPtr, Dynamic.field?, Dynamic.isObject, Bool.true_and]
      cases List.lookup (str "kind") fields with
      | none => rfl
      | some v =>
          cases v with
          | string kind =>
              simp only [Option.all_some, kindShape]
              split_ifs
              · rw [isOk_storing, ListenerConfig.format.isOk_read]
              · rw [isOk_storing, RouterConfig.format.isOk_read]
              · rw [isOk_storing, ServiceConfig.format.isOk_read]
              · rw [isOk_storing, GatewayConfig.format.isOk_read]
              · rw [isOk_storing, PolicyConfig.format.isOk_read]
              · rfl
          | _ => rfl
  | _ => rfl

theorem applyJsonDocument_of_parse {parseJson : Str → Option Dynamic} {jsonText : Str} {doc : Dynamic}
    (hparse : parseJson jsonText = some doc) (store : ConfigStore) :
    applyJsonDocument parseJson jsonText store =
      ((dispatchDocument doc store).1.mapError .dynamic, (dispatchDocument doc store).2) := by
  rw [applyJsonDocument, hparse]

/-- **What a text does to a store.**  A text that is JSON and well-formed adds its
record, if it is of one of the five kinds; every other text throws and changes nothing. -/
theorem applyJsonDocument_spec (parseJson : Str → Option Dynamic) (jsonText : Str) (store : ConfigStore) :
    (∀ doc, parseJson jsonText = some doc → wellFormed doc = true →
      applyJsonDocument parseJson jsonText store = (.ok (), addDocument store doc)) ∧
    ((∀ doc, parseJson jsonText = some doc → wellFormed doc = false) →
      ∃ ex, applyJsonDocument parseJson jsonText store = (.error ex, store)) := by
  refine ⟨?_, ?_⟩
  · intro doc hparse hformed
    rw [← isOk_dispatchDocument doc store] at hformed
    rw [applyJsonDocument_of_parse hparse, dispatchDocument_eq]
    cases houtcome : (dispatchDocument doc store).1 with
    | error ex =>
        rw [houtcome] at hformed
        cases hformed
    | ok _ => rfl
  · intro hmalformed
    cases hparse : parseJson jsonText with
    | none =>
        refine ⟨.parseError, ?_⟩
        rw [applyJsonDocument, hparse]
    | some doc =>
        have hthrows := hmalformed doc hparse
        rw [← isOk_dispatchDocument doc store] at hthrows
        rw [applyJsonDocument_of_parse hparse]
        cases houtcome : (dispatchDocument doc store).1 with
        | ok _ =>
            rw [houtcome] at hthrows
            cases hthrows
        | error ex =>
            rw [dispatchDocument_of_error houtcome]
            exact ⟨.dynamic ex, rfl⟩

/-! ## Written stores -/

/-- The documents of a kind, in order. -/
def ofKind (kind : String) (docs : List Dynamic) : List Dynamic := docs.filter fun doc => docKind doc = some (str kind)

/-- The documents hold a store: those of each kind are its records of that kind, written
one after the other.  Documents of the kinds are interleaved in any way, also with
documents of other kinds. -/
structure ConfigStore.WrittenAs (store : ConfigStore) (docs : List Dynamic) : Prop where
  gateway : ofKind "Gateway" docs = store.gateway.toList.map GatewayConfig.format.write
  listeners : ofKind "Listener" docs = store.listeners.map ListenerConfig.format.write
  routers : ofKind "Router" docs = store.routers.map RouterConfig.format.write
  services : ofKind "Service" docs = store.services.map ServiceConfig.format.write
  policies : ofKind "Policy" docs = store.policies.map PolicyConfig.format.write

/-- The records of a kind are read back from the documents of that kind. -/
theorem filterMap_parsedAs {α : Type} {kind : String} {F : Format α} {docs : List Dynamic} {xs : List α}
    (h : ofKind kind docs = xs.map F.write) : docs.filterMap (parsedAs kind F.read) = xs := by
  have hkind : docs.filterMap (parsedAs kind F.read) =
      (ofKind kind docs).filterMap fun doc => (F.read doc).toOption := by
    rw [ofKind, List.filterMap_filter]
    congr 1
    funext doc
    simp only [parsedAs, decide_eq_true_eq]
  rw [hkind, h, List.filterMap_map]
  have hread : (fun doc => (F.read doc).toOption) ∘ F.write = some := by
    funext x
    show (F.read (F.write x)).toOption = some x
    rw [F.read_write]
    rfl
  rw [hread, List.filterMap_some]

theorem storeOf_written {store : ConfigStore} {docs : List Dynamic} (h : store.WrittenAs docs) :
    storeOf docs = store := by
  have hgateway : docs.filterMap gatewayOf = store.gateway.toList := filterMap_parsedAs h.gateway
  have hlisteners : docs.filterMap listenerOf = store.listeners := filterMap_parsedAs h.listeners
  have hrouters : docs.filterMap routerOf = store.routers := filterMap_parsedAs h.routers
  have hservices : docs.filterMap serviceOf = store.services := filterMap_parsedAs h.services
  have hpolicies : docs.filterMap policyOf = store.policies := filterMap_parsedAs h.policies
  rw [storeOf, hgateway, hlisteners, hrouters, hservices, hpolicies]
  obtain ⟨gateway, listeners, routers, services, policies⟩ := store
  cases gateway <;> rfl

end Config

open Config

/-- In a table without repeated keys every entry is found. -/
theorem lookup_of_nodup {κ ω : Type} [BEq κ] [LawfulBEq κ] {table : List (κ × ω)}
    (hnodup : (table.map Prod.fst).Nodup) {entry : κ × ω} (h : entry ∈ table) : table.lookup entry.1 = some entry.2 := by
  induction table with
  | nil => cases h
  | cons head rest ih =>
      obtain ⟨hfresh, hrest⟩ := List.nodup_cons.mp hnodup
      rcases List.mem_cons.mp h with rfl | hmem
      · exact List.lookup_cons_self
      · have hne : (entry.1 == head.1) = false := by
          rw [beq_eq_false_iff_ne]
          intro heq
          exact hfresh (heq ▸ List.mem_map_of_mem hmem)
        rw [List.lookup_cons, hne]
        exact ih hrest hmem

namespace Sample

/-- The configuration of `samples/basic`. -/
def basicStore : ConfigStore where
  gateway := some { apiVersion := str "kimchi/v1", kind := str "Gateway", metadata := { name := str "default" } }
  listeners :=
    [{ apiVersion := str "kimchi/v1"
       kind := str "Listener"
       metadata := { name := str "default-listener" }
       protocol := str "HTTP"
       port := 18000 }]
  routers :=
    [{ apiVersion := str "kimchi/v1"
       kind := str "Router"
       metadata := { name := str "basic-router" }
       rules := [{ path := str "/test", pathType := .exact, methods := [str "GET"] }]
       destinations := [{ destinationName := str "backend" }] }]
  services :=
    [{ apiVersion := str "kimchi/v1"
       kind := str "Service"
       metadata := { name := str "backend" }
       loadBalancing := { targets := [{ host := str "192.168.11.58", port := 80 }] } }]

/-! Its files, with every field that the format has written out, and what
`folly::parseJson` makes of each. -/

/-- The text of `service.json`. -/
def basicServiceText : Str :=
  str ("\x7b\"apiVersion\":\"kimchi/v1\",\"kind\":\"Service\",\"metadata\":\x7b\"name\":\"backend\"\x7d,\"spec\":" ++
    "\x7b\"protocol\":\"HTTP\",\"loadBalancing\":\x7b\"algorithm\":\"ROUND_ROBIN\",\"targets\":" ++
    "[\x7b\"host\":\"192.168.11.58\",\"port\":80,\"weight\":1\x7d]\x7d\x7d\x7d")

/-- Its value. -/
def basicServiceDoc : Dynamic :=
  .ofFields [("apiVersion", .string (str "kimchi/v1")), ("kind", .string (str "Service")),
    ("metadata", .ofFields [("name", .string (str "backend"))]),
    ("spec", .ofFields [("protocol", .string (str "HTTP")),
      ("loadBalancing", .ofFields [("algorithm", .string (str "ROUND_ROBIN")),
        ("targets", .array [.ofFields [("host", .string (str "192.168.11.58")), ("port", .int64 80),
          ("weight", .int64 1)]])])])]

/-- The text of `gateway.json`. -/
def basicGatewayText : Str :=
  str ("\x7b\"apiVersion\":\"kimchi/v1\",\"kind\":\"Gateway\",\"metadata\":\x7b\"name\":\"default\"\x7d,\"spec\":" ++
    "\x7b\"observability\":\x7b\"accessLog\":\x7b\"enabled\":true,\"format\":\"JSON\"\x7d\x7d,\"server\":" ++
    "\x7b\"workerThreads\":0,\"idleTimeoutMs\":60000,\"listenBacklog\":1024,\"maxConcurrentStreams\":100," ++
    "\"initialReceiveWindowBytes\":65536,\"useZeroCopy\":false\x7d\x7d\x7d")

/-- Its value. -/
def basicGatewayDoc : Dynamic :=
  .ofFields [("apiVersion", .string (str "kimchi/v1")), ("kind", .string (str "Gateway")),
    ("metadata", .ofFields [("name", .string (str "default"))]),
    ("spec", .ofFields [
      ("observability", .ofFields [("accessLog", .ofFields [("enabled", .bool true),
        ("format", .string (str "JSON"))])]),
      ("server", .ofFields [("workerThreads", .int64 0), ("idleTimeoutMs", .int64 60000),
        ("listenBacklog", .int64 1024), ("maxConcurrentStreams", .int64 100),
        ("initialReceiveWindowBytes", .int64 65536), ("useZeroCopy", .bool false)])])]

/-- A document of a kind that is not read. -/
def mockingText : Str := str "\x7b\"kind\":\"MockingService\"\x7d"

/-- Its value. -/
def mockingDoc : Dynamic := .ofFields [("kind", .string (str "MockingService"))]

/-- The text of `router.json`. -/
def basicRouterText : Str :=
  str ("\x7b\"apiVersion\":\"kimchi/v1\",\"kind\":\"Router\",\"metadata\":\x7b\"name\":\"basic-router\"\x7d,\"spec\":" ++
    "\x7b\"targetRef\":\x7b\"name\":\"\"\x7d,\"rules\":" ++
    "[\x7b\"path\":\"/test\",\"pathType\":\"Exact\",\"methods\":[\"GET\"]\x7d]," ++
    "\"config\":\x7b\"destinations\":[\x7b\"destinationRef\":\x7b\"kind\":\"Service\",\"name\":\"backend\"\x7d," ++
    "\"weight\":100\x7d]\x7d," ++
    "\"policies\":[]\x7d\x7d")

/-- Its value. -/
def basicRouterDoc : Dynamic :=
  .ofFields [("apiVersion", .string (str "kimchi/v1")), ("kind", .string (str "Router")),
    ("metadata", .ofFields [("name", .string (str "basic-router"))]),
    ("spec", .ofFields [("targetRef", .ofFields [("name", .string [])]),
      ("rules", .array [.ofFields [("path", .string (str "/test")), ("pathType", .string (str "Exact")),
        ("methods", .array [.string (str "GET")])]]),
      ("config", .ofFields [("destinations", .array [.ofFields [
        ("destinationRef", .ofFields [("kind", .string (str "Service")), ("name", .string (str "backend"))]),
        ("weight", .int64 100)]])]),
      ("policies", .array [])])]

/-- The text of `listener.json`. -/
def basicListenerText : Str :=
  str ("\x7b\"apiVersion\":\"kimchi/v1\",\"kind\":\"Listener\",\"metadata\":\x7b\"name\":\"default-listener\"\x7d," ++
    "\"spec\":\x7b\"protocol\":\"HTTP\",\"port\":18000,\"host\":\"0.0.0.0\",\"allowedHostnames\":[]\x7d\x7d")

/-- Its value. -/
def basicListenerDoc : Dynamic :=
  .ofFields [("apiVersion", .string (str "kimchi/v1")), ("kind", .string (str "Listener")),
    ("metadata", .ofFields [("name", .string (str "default-listener"))]),
    ("spec", .ofFields [("protocol", .string (str "HTTP")), ("port", .int64 18000),
      ("host", .string (str "0.0.0.0")), ("allowedHostnames", .array [])])]

/-- The texts with their values, in an order that is not the one of `basicStore`. -/
def basicTable : List (Str × Dynamic) :=
  [(basicServiceText, basicServiceDoc), (basicGatewayText, basicGatewayDoc), (mockingText, mockingDoc),
    (basicRouterText, basicRouterDoc), (basicListenerText, basicListenerDoc)]

/-- `folly::parseJson` on these texts. -/
def parseBasic (content : Str) : Option Dynamic := basicTable.lookup content

/-- A directory with the five files, and a note that is not a JSON file. -/
def basicFiles : List DirEntry :=
  { isRegularFile := true, extension := str ".md", content := some (str "# basic") } ::
    basicTable.map fun entry => { isRegularFile := true, extension := str ".json", content := some entry.1 }

theorem nodup_basicTexts : (basicTable.map Prod.fst).Nodup := by decide +kernel

theorem documents_basicFiles : documents parseBasic basicFiles = basicTable.map Prod.snd := by
  have hnote : documents parseBasic basicFiles =
      basicTable.filterMap fun entry => parseBasic entry.1 := by
    rw [documents, basicFiles, List.filterMap_cons_none rfl, List.filterMap_map]
    rfl
  rw [hnote, List.filterMap_eq_map_iff_forall_eq_some]
  intro entry hentry
  exact lookup_of_nodup nodup_basicTexts hentry

end Sample

namespace Config

/-- **Round trip.**  A directory whose files hold the documents of a store is loaded as
that store, with every field of every record. -/
theorem loadFromDirectory_written {parseJson : Str → Option Dynamic} {entries : List DirEntry} {store : ConfigStore}
    (h : store.WrittenAs (documents parseJson entries)) :
    loadFromDirectory parseJson (.listing entries none) = .ok store := by
  rw [loadFromDirectory_listing, storeOf_written h]

/-- The files of `samples/basic` as they are written. -/
theorem loadFromDirectory_basic :
    loadFromDirectory Sample.parseBasic (.listing Sample.basicFiles none) = .ok Sample.basicStore := by
  refine loadFromDirectory_written ?_
  rw [Sample.documents_basicFiles]
  exact ⟨rfl, rfl, rfl, rfl, rfl⟩

end Config
end Kimchi
