import Mathlib.Data.List.Induction
import Kimchi.Config.FromJson

/-!
# What a directory of documents stands for

`storeOf` is the store a sequence of documents is meant to give: for every kind the
records of the documents of that kind that parse, in order, and the last gateway.
It does not mention the loop, the dispatch or an exception.

* `dispatchDocument_eq` — one document, whether it is stored, skipped or throws.
* `foldl_loadEntry` — the loop of `loadFromDirectory`.
* `load_applies_documents` — a loaded store is `storeOf` of the documents that could
  be read, a document that throws might as well not be there, and the lists of
  routers and services are those of their documents.
-/

namespace Kimchi
namespace Config

/-- The text under `kind`, if the document is an object and has one. -/
def docKind (doc : Dynamic) : Option Str :=
  match doc.field? "kind" with
  | some (.string kind) => some kind
  | _ => none

/-- The record of a document of one kind, if it parses. -/
def parsedAs {α : Type} (kind : String) (fromJson : Dynamic → Except DynamicError α) (doc : Dynamic) :
    Option α :=
  if docKind doc = some (str kind) then (fromJson doc).toOption else none

/-- The listener that a document holds, if it is one of that kind and reading it does not
throw. -/
def listenerOf (doc : Dynamic) : Option ListenerConfig := parsedAs "Listener" ListenerConfig.fromJson doc

/-- The router that a document holds. -/
def routerOf (doc : Dynamic) : Option RouterConfig := parsedAs "Router" RouterConfig.fromJson doc

/-- The service that a document holds. -/
def serviceOf (doc : Dynamic) : Option ServiceConfig := parsedAs "Service" ServiceConfig.fromJson doc

/-- The gateway that a document holds. -/
def gatewayOf (doc : Dynamic) : Option GatewayConfig := parsedAs "Gateway" GatewayConfig.fromJson doc

/-- The policy that a document holds. -/
def policyOf (doc : Dynamic) : Option PolicyConfig := parsedAs "Policy" PolicyConfig.fromJson doc

/-- **The store a sequence of documents stands for.** -/
def storeOf (docs : List Dynamic) : ConfigStore :=
  { gateway := (docs.filterMap gatewayOf).getLast?
    listeners := docs.filterMap listenerOf
    routers := docs.filterMap routerOf
    services := docs.filterMap serviceOf
    policies := docs.filterMap policyOf }

/-- What one document adds to a store. -/
def addDocument (store : ConfigStore) (doc : Dynamic) : ConfigStore :=
  { gateway := (gatewayOf doc).or store.gateway
    listeners := store.listeners ++ (listenerOf doc).toList
    routers := store.routers ++ (routerOf doc).toList
    services := store.services ++ (serviceOf doc).toList
    policies := store.policies ++ (policyOf doc).toList }

section Parsed

variable {α : Type} {kind : String} {fromJson : Dynamic → Except DynamicError α} {doc : Dynamic}

theorem parsedAs_eq_some_iff {x : α} :
    parsedAs kind fromJson doc = some x ↔ docKind doc = some (str kind) ∧ fromJson doc = .ok x := by
  unfold parsedAs
  by_cases hkind : docKind doc = some (str kind)
  · rw [if_pos hkind]
    cases fromJson doc <;> simp [Except.toOption, hkind]
  · simp [hkind]

theorem parsedAs_of_ne (h : docKind doc ≠ some (str kind)) : parsedAs kind fromJson doc = none :=
  if_neg h

theorem parsedAs_of_other {actual : String} (h : docKind doc = some (str actual)) (kind : String)
    (hne : str actual ≠ str kind) : parsedAs kind fromJson doc = none := by
  apply parsedAs_of_ne
  rw [h]
  simpa using hne

/-- Storing the parsed record is adding what the document parses as. -/
theorem storing_eq (h : docKind doc = some (str kind)) (update : α → ConfigStore) (store : ConfigStore) :
    (storing (fromJson doc) update store).2 = (parsedAs kind fromJson doc).elim store update := by
  rw [parsedAs, if_pos h]
  cases fromJson doc <;> rfl

end Parsed

theorem docKind_eq_some_iff {doc : Dynamic} {kind : Str} :
    docKind doc = some kind ↔ doc.getPtr "kind" = .ok (some (.string kind)) := by
  rw [Dynamic.getPtr_eq_some_iff]
  unfold docKind
  split
  · next k hk => simp [hk]
  · next hother =>
      constructor
      · intro h
        cases h
      · intro h
        exact absurd h (hother kind)

/-- **What `dispatchDocument` can do.**  It stores the record of one of the five kinds,
or it leaves the store alone, whether it throws or skips the document. -/
theorem dispatchDocument_cases {doc : Dynamic} {store : ConfigStore}
    {motive : Except DynamicError Unit × ConfigStore → Prop}
    (ignored : (∀ kind ∈ ["Listener", "Router", "Service", "Gateway", "Policy"],
      docKind doc ≠ some (str kind)) → ∀ outcome, motive (outcome, store))
    (listener : docKind doc = some (str "Listener") →
      motive (storing (ListenerConfig.fromJson doc)
        (fun cfg => { store with listeners := store.listeners ++ [cfg] }) store))
    (router : docKind doc = some (str "Router") →
      motive (storing (RouterConfig.fromJson doc)
        (fun cfg => { store with routers := store.routers ++ [cfg] }) store))
    (service : docKind doc = some (str "Service") →
      motive (storing (ServiceConfig.fromJson doc)
        (fun cfg => { store with services := store.services ++ [cfg] }) store))
    (gateway : docKind doc = some (str "Gateway") →
      motive (storing (GatewayConfig.fromJson doc) (fun cfg => { store with gateway := some cfg }) store))
    (policy : docKind doc = some (str "Policy") →
      motive (storing (PolicyConfig.fromJson doc)
        (fun cfg => { store with policies := store.policies ++ [cfg] }) store)) :
    motive (dispatchDocument doc store) := by
  have hkindless (hnone : docKind doc = none) (outcome : Except DynamicError Unit) :
      motive (outcome, store) := ignored (by simp [hnone]) outcome
  have hnone (hptr : ∀ kind, doc.getPtr "kind" ≠ .ok (some (.string kind))) : docKind doc = none := by
    rw [Option.eq_none_iff_forall_ne_some]
    intro kind hkind
    exact hptr kind (docKind_eq_some_iff.mp hkind)
  unfold dispatchDocument
  split
  · next hthrows => exact hkindless (hnone (by simp [hthrows])) _
  · next kind hkind =>
      rw [← docKind_eq_some_iff] at hkind
      split_ifs with hlistener hrouter hservice hgateway hpolicy
      · exact listener (hlistener ▸ hkind)
      · exact router (hrouter ▸ hkind)
      · exact service (hservice ▸ hkind)
      · exact gateway (hgateway ▸ hkind)
      · exact policy (hpolicy ▸ hkind)
      · exact ignored (by simp [hkind, hlistener, hrouter, hservice, hgateway, hpolicy]) _
  · next hother hptr =>
      apply hkindless
      apply hnone
      intro kind hkind
      exact hother kind (Except.ok.inj (hptr.symm.trans hkind))

/-- **One document.**  Whatever `dispatchDocument` does, it leaves behind the store
with the record of the document, if it parses as one. -/
theorem dispatchDocument_eq (doc : Dynamic) (store : ConfigStore) :
    (dispatchDocument doc store).2 = addDocument store doc := by
  unfold addDocument gatewayOf listenerOf routerOf serviceOf policyOf
  -- a document of one kind parses as nothing else
  apply dispatchDocument_cases (motive := fun result => result.2 = _)
  case ignored =>
    intro hkinds outcome
    simp [parsedAs_of_ne (hkinds _ _)]
  case listener =>
    intro hkind
    rw [storing_eq hkind, parsedAs_of_other hkind "Gateway" (by decide),
      parsedAs_of_other hkind "Router" (by decide), parsedAs_of_other hkind "Service" (by decide),
      parsedAs_of_other hkind "Policy" (by decide)]
    cases parsedAs "Listener" ListenerConfig.fromJson doc <;> simp
  case router =>
    intro hkind
    rw [storing_eq hkind, parsedAs_of_other hkind "Gateway" (by decide),
      parsedAs_of_other hkind "Listener" (by decide), parsedAs_of_other hkind "Service" (by decide),
      parsedAs_of_other hkind "Policy" (by decide)]
    cases parsedAs "Router" RouterConfig.fromJson doc <;> simp
  case service =>
    intro hkind
    rw [storing_eq hkind, parsedAs_of_other hkind "Gateway" (by decide),
      parsedAs_of_other hkind "Listener" (by decide), parsedAs_of_other hkind "Router" (by decide),
      parsedAs_of_other hkind "Policy" (by decide)]
    cases parsedAs "Service" ServiceConfig.fromJson doc <;> simp
  case gateway =>
    intro hkind
    rw [storing_eq hkind, parsedAs_of_other hkind "Listener" (by decide),
      parsedAs_of_other hkind "Router" (by decide), parsedAs_of_other hkind "Service" (by decide),
      parsedAs_of_other hkind "Policy" (by decide)]
    cases parsedAs "Gateway" GatewayConfig.fromJson doc <;> simp
  case policy =>
    intro hkind
    rw [storing_eq hkind, parsedAs_of_other hkind "Gateway" (by decide),
      parsedAs_of_other hkind "Listener" (by decide), parsedAs_of_other hkind "Router" (by decide),
      parsedAs_of_other hkind "Service" (by decide)]
    cases parsedAs "Policy" PolicyConfig.fromJson doc <;> simp

/-- A document that throws changes nothing. -/
theorem dispatchDocument_of_error {doc : Dynamic} {store : ConfigStore} {ex : DynamicError} :
    (dispatchDocument doc store).1 = .error ex → (dispatchDocument doc store).2 = store := by
  have hstoring {α : Type} (parsed : Except DynamicError α) (update : α → ConfigStore)
      (hthrows : (storing parsed update store).1 = .error ex) :
      (storing parsed update store).2 = store := by
    cases parsed with
    | ok cfg => cases hthrows
    | error ex' => rfl
  apply dispatchDocument_cases (motive := fun result => result.1 = .error ex → result.2 = store)
  case ignored => exact fun _ _ _ => rfl
  all_goals exact fun _ => hstoring _ _

/-- A document of a known kind that does not throw parses. -/
theorem parsed_of_ok {doc : Dynamic} {store : ConfigStore} (h : (dispatchDocument doc store).1 = .ok ()) :
    (docKind doc = some (str "Listener") → ∃ cfg, listenerOf doc = some cfg) ∧
      (docKind doc = some (str "Router") → ∃ cfg, routerOf doc = some cfg) ∧
      (docKind doc = some (str "Service") → ∃ cfg, serviceOf doc = some cfg) ∧
      (docKind doc = some (str "Gateway") → ∃ cfg, gatewayOf doc = some cfg) ∧
      (docKind doc = some (str "Policy") → ∃ cfg, policyOf doc = some cfg) := by
  have hstoring {α : Type} {kind : String} {fromJson : Dynamic → Except DynamicError α}
      {update : α → ConfigStore} (hkind : docKind doc = some (str kind))
      (hok : (storing (fromJson doc) update store).1 = .ok ()) :
      ∃ x, parsedAs kind fromJson doc = some x := by
    cases hparsed : fromJson doc with
    | error ex =>
        rw [hparsed] at hok
        cases hok
    | ok x => exact ⟨x, parsedAs_eq_some_iff.mpr ⟨hkind, hparsed⟩⟩
  unfold dispatchDocument at h
  refine ⟨?_, ?_, ?_, ?_, ?_⟩ <;>
  · intro hkind
    rw [docKind_eq_some_iff.mp hkind] at h
    exact hstoring hkind h

/-! ## The loop -/

/-- The document of a directory entry: of a regular `.json` file that can be opened
and parses. -/
def documentOf (parseJson : Str → Option Dynamic) (entry : DirEntry) : Option Dynamic :=
  if entry.isRegularFile = true ∧ entry.extension = str ".json" then entry.content.bind parseJson
  else none

/-- The documents of a directory listing, in order. -/
def documents (parseJson : Str → Option Dynamic) (entries : List DirEntry) : List Dynamic :=
  entries.filterMap (documentOf parseJson)

/-- The loop body adds the document of the entry, if it has one. -/
theorem loadEntry_eq (parseJson : Str → Option Dynamic) (store : ConfigStore) (entry : DirEntry) :
    loadEntry parseJson store entry = (documentOf parseJson entry).elim store (addDocument store) := by
  unfold loadEntry documentOf
  by_cases hjson : entry.isRegularFile = true ∧ entry.extension = str ".json"
  · rw [if_pos hjson, if_neg (by simp [hjson])]
    cases entry.content with
    | none => rfl
    | some content =>
        dsimp only [Option.bind_some]
        cases parseJson content with
        | none => rfl
        | some doc => exact dispatchDocument_eq doc store
  · rw [if_neg hjson, if_pos]
    · rfl
    · rcases not_and_or.mp hjson with hregular | hextension
      · simp [hregular]
      · simp [hextension]

theorem storeOf_concat (docs : List Dynamic) (doc : Dynamic) :
    storeOf (docs ++ [doc]) = addDocument (storeOf docs) doc := by
  have htoList {α : Type} (f : Dynamic → Option α) : [doc].filterMap f = (f doc).toList := by
    cases hf : f doc <;> simp [hf]
  unfold storeOf addDocument
  simp only [List.filterMap_append, htoList]
  congr 1
  cases gatewayOf doc <;> simp

/-- Adding the documents one by one gives the store they stand for. -/
theorem foldl_addDocument (docs : List Dynamic) : docs.foldl addDocument {} = storeOf docs := by
  induction docs using List.reverseRecOn with
  | nil => rfl
  | append_singleton docs doc ih => rw [List.foldl_concat, ih, storeOf_concat]

/-- **The loop of `loadFromDirectory`.** -/
theorem foldl_loadEntry (parseJson : Str → Option Dynamic) (entries : List DirEntry) :
    entries.foldl (loadEntry parseJson) {} = storeOf (documents parseJson entries) := by
  rw [← foldl_addDocument, documents, List.foldl_filterMap]
  congr 1
  funext store entry
  rw [loadEntry_eq]
  cases documentOf parseJson entry <;> rfl

theorem loadFromDirectory_listing (parseJson : Str → Option Dynamic) (entries : List DirEntry) :
    loadFromDirectory parseJson (.listing entries none) = .ok (storeOf (documents parseJson entries)) := by
  rw [loadFromDirectory, foldl_loadEntry]

/-- Dropping an entry whose document throws does not change what is loaded. -/
theorem foldl_loadEntry_of_error {parseJson : Str → Option Dynamic} {before after : List DirEntry}
    {entry : DirEntry} {doc : Dynamic} {ex : DynamicError} (hdoc : documentOf parseJson entry = some doc)
    (h : (dispatchDocument doc (before.foldl (loadEntry parseJson) {})).1 = .error ex) :
    (before ++ entry :: after).foldl (loadEntry parseJson) {} =
      (before ++ after).foldl (loadEntry parseJson) {} := by
  have hunchanged := dispatchDocument_of_error h
  rw [dispatchDocument_eq] at hunchanged
  rw [List.foldl_append, List.foldl_cons, List.foldl_append, loadEntry_eq, hdoc, Option.elim_some,
    hunchanged]

/-- **The loader applies each document completely or not at all, and loses nothing.**
The store holds, for every kind and in order, the records of exactly the documents
that parse, and the last gateway; a document that throws leaves the store as it was
and later documents unaffected; and the lists of the loaded routers and services are
those of the arrays they were read from. -/
theorem load_applies_documents (parseJson : Str → Option Dynamic) (entries : List DirEntry) :
    ∃ store, loadFromDirectory parseJson (.listing entries none) = .ok store ∧
      store = storeOf (documents parseJson entries) ∧
      (∀ doc before ex, (dispatchDocument doc before).1 = .error ex →
        (dispatchDocument doc before).2 = before) ∧
      (∀ before entry after doc ex, entries = before ++ entry :: after →
        documentOf parseJson entry = some doc →
        (dispatchDocument doc (before.foldl (loadEntry parseJson) {})).1 = .error ex →
        loadFromDirectory parseJson (.listing (before ++ after) none) = .ok store) ∧
      (∀ router ∈ store.routers, ∃ doc ∈ documents parseJson entries,
        routerOf doc = some router ∧ router.ReadsArrays doc) ∧
      (∀ service ∈ store.services, ∃ doc ∈ documents parseJson entries,
        serviceOf doc = some service ∧ service.ReadsArrays doc) := by
  refine ⟨_, loadFromDirectory_listing parseJson entries, rfl, ?_, ?_, ?_, ?_⟩
  · intro doc before ex hthrows
    exact dispatchDocument_of_error hthrows
  · intro before entry after doc ex hentries hdoc hthrows
    have hsame : (before ++ entry :: after).foldl (loadEntry parseJson) {} =
        (before ++ after).foldl (loadEntry parseJson) {} := foldl_loadEntry_of_error hdoc hthrows
    rw [foldl_loadEntry, foldl_loadEntry, ← hentries] at hsame
    rw [loadFromDirectory_listing, hsame]
  · intro router hrouter
    obtain ⟨doc, hdoc, hparsed⟩ := List.mem_filterMap.mp hrouter
    exact ⟨doc, hdoc, hparsed, RouterConfig.readsArrays (parsedAs_eq_some_iff.mp hparsed).2⟩
  · intro service hservice
    obtain ⟨doc, hdoc, hparsed⟩ := List.mem_filterMap.mp hservice
    exact ⟨doc, hdoc, hparsed, ServiceConfig.readsArrays (parsedAs_eq_some_iff.mp hparsed).2⟩

end Config
end Kimchi
