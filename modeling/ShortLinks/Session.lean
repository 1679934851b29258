import ShortLinks.Service
import ShortLinks.Settings
import ShortLinks.Store.Database
import ShortLinks.Store.File
import ShortLinks.Store.Memory

/-!
# Sessions

A session opens the store that the settings select, starts the service on it, and keeps it until it is
interrupted. Then the deletions that are queued are applied and the store is closed.
-/

set_option autoImplicit false

namespace ShortLinks

structure World (δ : Type) where
  disk : Disk
  database : δ
  random : Random

inductive SessionError where
  | notOpened (kind : String) (cause : StoreError)
  | unhealthy (cause : ServiceError)

namespace SessionError

/-- What a failure of the service adds to a chain: one of the store counts as the store's own. -/
def causeChain : ServiceError → List String
  | .storage cause => cause.chain
  | e => [e.message]

def chain : SessionError → List String
  | .notOpened kind cause => s!"Failed to open {kind} storage" :: cause.chain
  | .unhealthy cause => "Store health check failed" :: causeChain cause

end SessionError

namespace Session

variable {ε σ δ : Type}

def announce (s : Settings) : List Event := .settingsLoaded :: s.summary.map .settingsLine

def serve [Store σ] : Action SessionError (Service σ) Unit := do
  Action.mapError .unhealthy Service.ping
  match ← Action.attempt Service.stats with
  | .ok stats => Action.emit (.ready stats.urls stats.users)
  | .error cause => Action.emit (.statsFailed (ServiceError.message cause))
  Action.emit .shuttingDown
  Service.shutdown
  Action.emit .shutDown

def runOn [Store σ] (settings : Settings) (random : Random) (store : σ) : Effect SessionError (Service σ) Unit :=
  let started : Effect SessionError (Service σ) Unit := Service.start store random settings.shortIdLength
    settings.ownerIdLength settings.deleteWorkers settings.deleteQueueCapacity
  let served := serve started.state
  { served with events := .storeConnected settings.storage.kind :: started.events ++ served.events }

/-- A session with the given settings, which is interrupted as soon as it is ready. -/
def run [Database δ] (settings : Settings) : Action SessionError (World δ) Unit := fun world =>
  match settings.storage with
  | .memory =>
    let r := runOn settings world.random MemoryStore.empty
    ⟨r.outcome, { world with random := r.state.random }, .memoryInit :: r.events⟩
  | .file path =>
    let opened := FileStore.openLog path world.disk
    match opened.outcome with
    | .error cause =>
      ⟨.error (.notOpened "file" cause), { world with disk := opened.state }, .fileInit path :: opened.events⟩
    | .ok log =>
      let r := runOn settings world.random { path, log, disk := opened.state : FileStore }
      ⟨r.outcome, { world with disk := r.state.pipeline.store.disk, random := r.state.random },
        .fileInit path :: opened.events ++ r.events⟩
  | .database d =>
    let closed : DatabaseStore δ :=
      { database := world.database, closed := false, queryLimit := d.queryLimit, pingLimit := d.pingLimit }
    let opened := DatabaseStore.connect d.url closed
    match opened.outcome with
    | .error cause =>
      ⟨.error (.notOpened "postgres" cause), { world with database := opened.state.database },
        .databaseInit :: opened.events⟩
    | .ok () =>
      let r := runOn settings world.random opened.state
      ⟨r.outcome, { world with database := r.state.pipeline.store.database, random := r.state.random },
        .databaseInit :: opened.events ++ .databaseConnected :: r.events⟩

end Session
end ShortLinks
