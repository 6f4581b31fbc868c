import Kimchi.Config.LoadedStore
import Kimchi.Http.Message

/-!
# The admin handler

`handler/admin_handler.cpp`: a health check and the reload of the configuration.
A reload runs `ConfigLoader::loadFromDirectory` and swaps the store that it returns
into the configuration the servers share; only an exception keeps the old one.

The loader throws in one situation only, when the iteration of the directory fails.
A missing directory gives an empty store, and a file that cannot be opened, parsed or
dispatched is skipped, so `reload_allOrNothing_iff` has a condition: every `.json`
file of an existing directory is read without error.
-/

namespace Kimchi

open Config

/-- `SharedConfig`; the mutex guards the single assignment to `current`. -/
structure SharedConfig where
  current : ConfigStore
  deriving DecidableEq, Repr

/-- What the handler finds outside: `folly::parseJson`, and `configDir_` as it is
when the request ends. -/
structure AdminEnv where
  parseJson : Str → Option Dynamic
  configDir : ConfigDir

/-- `AdminHandler`, with the request it was given. -/
structure AdminHandler where
  requestHeaders : Option HTTPMessage := none
  deriving DecidableEq, Repr

namespace AdminHandler

/-- The message is kept until the request ends. -/
def onRequest (h : AdminHandler) (headers : HTTPMessage) : AdminHandler :=
  { h with requestHeaders := some headers }

/-- The answer to `GET /healthz`. -/
def healthy : Response := jsonResponse 200 "OK" (str "\x7b\"status\":\"healthy\"\x7d")

/-- The answer to a reload that has replaced the configuration. -/
def reloaded : Response := jsonResponse 200 "OK" (str "\x7b\"reloaded\":true\x7d")

/-- The text of the exception goes into the body as it is. -/
def reloadFailed (what : Str) : Response :=
  jsonResponse 500 "Internal Server Error" (str "\x7b\"error\":\"" ++ what ++ str "\"\x7d")

/-- The answer to every other request. -/
def notFound : Response := jsonResponse 404 "Not Found" (str "\x7b\"error\":\"not found\"\x7d")

/-- `POST /config/reload`. -/
def reload (env : AdminEnv) (shared : SharedConfig) : SharedConfig × Response :=
  match loadFromDirectory env.parseJson env.configDir with
  | .ok newStore => ({ shared with current := newStore }, reloaded)
  | .error what => (shared, reloadFailed what)

/-- `onEOM`: the shared configuration it leaves and the response it sends.  It reads
through `requestHeaders_` without a check. -/
def onEOM (env : AdminEnv) (h : AdminHandler) (shared : SharedConfig) :
    Option (SharedConfig × Response) := do
  let headers ← h.requestHeaders
  if headers.path = str "/healthz" ∧ headers.method = str "GET" then
    return (shared, healthy)
  else if headers.path = str "/config/reload" ∧ headers.method = str "POST" then
    return reload env shared
  else
    return (shared, notFound)

/-- `onUpgrade` answers 400 by itself. -/
def onUpgrade : Response :=
  { head := { status := 400, reason := str "Bad Request", headers := [] }, body := none }

end AdminHandler

/-! ## Reloading -/

/-- The entry is no `.json` file, or it is read, parsed and dispatched without
error. -/
def ReadsWithoutError (parseJson : Str → Option Dynamic) (entry : DirEntry) : Prop :=
  entry.isRegularFile = true → entry.extension = str ".json" →
    ∃ content doc, entry.content = some content ∧ parseJson content = some doc ∧
      ∀ store, (dispatchDocument doc store).1 = .ok ()

/-- A complete reload: the directory exists, every `.json` file in it is read
without error, and the store holds all of them. -/
def CompleteReload (env : AdminEnv) (store : ConfigStore) : Prop :=
  ∃ entries, env.configDir = .listing entries none ∧
    (∀ entry ∈ entries, ReadsWithoutError env.parseJson entry) ∧
    store = storeOf (documents env.parseJson entries)

/-- The reload is complete and answered with 200, or changes nothing and is answered
with 500. -/
def AllOrNothing (env : AdminEnv) (before after : SharedConfig) (reply : Response) : Prop :=
  (CompleteReload env after.current ∧ reply.head.status = 200) ∨
    (after = before ∧ reply.head.status = 500)

/-- The iteration of the directory throws. -/
def IterationFails (dir : ConfigDir) : Prop := ∃ entries what, dir = .listing entries (some what)

/-- The directory exists and every `.json` file in it is read without error. -/
def ReadsCleanly (env : AdminEnv) : Prop :=
  ∃ entries, env.configDir = .listing entries none ∧
    ∀ entry ∈ entries, ReadsWithoutError env.parseJson entry

theorem AdminHandler.onEOM_reload (env : AdminEnv) (shared : SharedConfig) {headers : HTTPMessage}
    (hpath : headers.path = str "/config/reload") (hmethod : headers.method = str "POST") :
    AdminHandler.onEOM env { requestHeaders := some headers } shared =
      some (AdminHandler.reload env shared) := by
  have hne : ¬ (headers.path = str "/healthz" ∧ headers.method = str "GET") := by
    rintro ⟨hhealthz, -⟩
    rw [hpath] at hhealthz
    exact absurd hhealthz (by decide)
  simp only [onEOM, Option.bind_eq_bind, Option.bind_some, if_neg hne, if_pos (And.intro hpath hmethod)]
  rfl

/-- The three things a reload can do. -/
theorem AdminHandler.reload_eq (env : AdminEnv) (shared : SharedConfig) :
    AdminHandler.reload env shared =
      match env.configDir with
      | .missing => ({ shared with current := {} }, reloaded)
      | .listing entries none =>
          ({ shared with current := storeOf (documents env.parseJson entries) }, reloaded)
      | .listing _ (some what) => (shared, reloadFailed what) := by
  unfold reload
  cases env.configDir with
  | missing => rfl
  | listing entries failure =>
      cases failure with
      | none => rw [loadFromDirectory_listing]
      | some what => rfl

/-- **Reload is all or nothing** exactly when the iteration of the directory fails,
or the directory exists and every `.json` file in it is read, parsed and dispatched
without error. -/
theorem reload_allOrNothing_iff (env : AdminEnv) (shared : SharedConfig) (headers : HTTPMessage)
    (hpath : headers.path = str "/config/reload") (hmethod : headers.method = str "POST") :
    (∃ after reply, AdminHandler.onEOM env { requestHeaders := some headers } shared =
        some (after, reply) ∧ AllOrNothing env shared after reply) ↔
      IterationFails env.configDir ∨ ReadsCleanly env := by
  rw [AdminHandler.onEOM_reload env shared hpath hmethod, AdminHandler.reload_eq]
  unfold AllOrNothing CompleteReload IterationFails ReadsCleanly
  cases env.configDir with
  | missing =>
      -- 200 with an empty store: neither a complete reload nor a refusal
      simp [AdminHandler.reloaded, jsonResponse]
  | listing entries failure =>
      cases failure with
      | none => simp [AdminHandler.reloaded, jsonResponse]
      | some what => simp [AdminHandler.reloadFailed, jsonResponse]

namespace Sample

/-- `POST /config/reload`. -/
def reloadRequest : HTTPMessage :=
  { method := str "POST", url := str "/config/reload", path := str "/config/reload", queryString := []
    headers := [] }

/-- `{"kind":"Policy","spec":{}}`, and any other text is not JSON. -/
def parsePolicy (content : Str) : Option Dynamic :=
  if content = str "\x7b\"kind\":\"Policy\",\"spec\":\x7b\x7d\x7d" then
    some (.object [(str "kind", .string (str "Policy")), (str "spec", .object [])])
  else none

/-- A directory with one `.json` file. -/
def oneFile (content : String) : ConfigDir :=
  .listing [{ isRegularFile := true, extension := str ".json", content := some (str content) }] none

/-- A configuration with one router. -/
def oneRouter : SharedConfig := { current := { routers := [{}] } }

end Sample

/-- A directory with one well-formed file is an instance. -/
theorem reload_of_policy_file :
    ∃ after reply, AdminHandler.onEOM
        ⟨Sample.parsePolicy, Sample.oneFile "\x7b\"kind\":\"Policy\",\"spec\":\x7b\x7d\x7d"⟩
        { requestHeaders := some Sample.reloadRequest } Sample.oneRouter = some (after, reply) ∧
      AllOrNothing ⟨Sample.parsePolicy, Sample.oneFile "\x7b\"kind\":\"Policy\",\"spec\":\x7b\x7d\x7d"⟩
        Sample.oneRouter after reply := by
  refine (reload_allOrNothing_iff _ _ _ rfl rfl).mpr (Or.inr ⟨_, rfl, ?_⟩)
  intro entry hentry _ _
  obtain rfl := List.mem_singleton.mp hentry
  exact ⟨_, _, rfl, rfl, fun store => rfl⟩

/-- The configured directory is gone, or its only file is cut short: the reload
answers 200 and the router is lost. -/
theorem reload_loses_configuration :
    AdminHandler.onEOM ⟨Sample.parsePolicy, .missing⟩ { requestHeaders := some Sample.reloadRequest }
        Sample.oneRouter = some ({ current := {} }, AdminHandler.reloaded) ∧
      AdminHandler.onEOM ⟨Sample.parsePolicy, Sample.oneFile "\x7b\"kind\":\"Policy\""⟩
        { requestHeaders := some Sample.reloadRequest } Sample.oneRouter =
          some ({ current := {} }, AdminHandler.reloaded) ∧
      Sample.oneRouter.current ≠ {} ∧
      ¬ AllOrNothing ⟨Sample.parsePolicy, .missing⟩ Sample.oneRouter { current := {} }
        AdminHandler.reloaded := by
  refine ⟨rfl, rfl, by decide, ?_⟩
  rintro (⟨⟨entries, hdir, -⟩, -⟩ | ⟨hsame, -⟩)
  · cases hdir
  · exact absurd hsame (by decide)

end Kimchi
