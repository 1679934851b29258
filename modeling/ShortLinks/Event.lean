import ShortLinks.Deletion.Job
import ShortLinks.Store.Error
import ShortLinks.Text.Quoted

/-!
# Events

What the service notes down about its work. An event is a fact; its level, the part of the service it comes
from, its message and its fields are read off it.
-/

set_option autoImplicit false

namespace ShortLinks

inductive Level where
  | error
  | warn
  | info
  | debug
  | trace
deriving DecidableEq, Repr

namespace Level

def name : Level → String
  | .error => "ERROR"
  | .warn => "WARN"
  | .info => "INFO"
  | .debug => "DEBUG"
  | .trace => "TRACE"

/-- Higher ranks are more detailed. -/
def rank : Level → Nat
  | .error => 1
  | .warn => 2
  | .info => 3
  | .debug => 4
  | .trace => 5

end Level

inductive Origin where
  | settings
  | session
  | storage
  | fileStore
  | databaseStore
  | databaseAddress
  | deletion
  | service
deriving DecidableEq, Repr

def Origin.name : Origin → String
  | .settings => "url_store::config"
  | .session => "url_store::app"
  | .storage => "url_store::infrastructure::persistence"
  | .fileStore => "url_store::infrastructure::persistence::file_short_url_repository"
  | .databaseStore => "url_store::infrastructure::persistence::pg_short_url_repository"
  | .databaseAddress => "sqlx_postgres::options::parse"
  | .deletion => "url_store::domain::delete_worker"
  | .service => "url_store::application::services::shortener_service"

inductive FieldValue where
  | plain (text : String)
  /-- A text that stands in quotes where lines are read by people. -/
  | quoted (text : String)
  | number (value : Nat)
deriving DecidableEq, Repr

inductive Event where
  | settingsLoaded
  | settingsLine (line : String)
  | memoryInit
  | fileInit (path : String)
  | databaseInit
  | databaseConnected
  /-- An option of a database address that means nothing. -/
  | unknownOption (name value : String)
  | compacted (path : String) (entries unparsed : Nat)
  | malformedRecord (path : String) (line : Nat) (cause : Record.DecodeError)
  | deletionsAppended (owner : String) (bytes : Nat)
  | deletionsExecuted (owner : String) (requested deleted : Nat)
  | poolClosing
  | pipelineStarted (workers capacity : Nat)
  | queueFull (job : Deletion.Job)
  | draining (workers : Nat)
  | drained
  | workerStarted (worker : Nat)
  | workerStopped (worker : Nat)
  | jobApplied (worker : Nat) (job : Deletion.Job)
  | jobFailed (worker : Nat) (job : Deletion.Job) (cause : StoreError)
  | idCollision (attempt : Nat) (id : String)
  | batchCollision (attempt : Nat) (id : String)
  | storeConnected (kind : String)
  | ready (urls users : Nat)
  | statsFailed (cause : String)
  | shuttingDown
  | shutDown
deriving DecidableEq, Repr

namespace Event

def level : Event → Level
  | .jobFailed .. => .error
  | .unknownOption .. | .malformedRecord .. | .queueFull _ | .idCollision .. | .batchCollision .. | .statsFailed _ => .warn
  | .deletionsAppended .. | .deletionsExecuted .. | .workerStarted _ | .workerStopped _ | .jobApplied .. => .debug
  | _ => .info

def origin : Event → Origin
  | .settingsLoaded | .settingsLine _ => .settings
  | .memoryInit | .fileInit _ | .databaseInit | .databaseConnected => .storage
  | .unknownOption .. => .databaseAddress
  | .compacted .. | .malformedRecord .. | .deletionsAppended .. => .fileStore
  | .deletionsExecuted .. | .poolClosing => .databaseStore
  | .pipelineStarted .. | .queueFull _ | .draining _ | .drained | .workerStarted _ | .workerStopped _
  | .jobApplied .. | .jobFailed .. => .deletion
  | .idCollision .. | .batchCollision .. => .service
  | .storeConnected _ | .ready .. | .statsFailed _ | .shuttingDown | .shutDown => .session

def message : Event → String
  | .settingsLoaded => "Configuration loaded:"
  | .settingsLine line => "  " ++ line
  | .memoryInit => "Init memory storage"
  | .fileInit _ => "Init file storage"
  | .databaseInit => "Init database storage"
  | .databaseConnected => "Connected to database"
  | .unknownOption .. => "ignoring unrecognized connect parameter"
  | .compacted .. => "Compacted short url log"
  | .malformedRecord .. => "Skipping malformed short url record"
  | .deletionsAppended .. => "Appending soft delete records"
  | .deletionsExecuted .. => "Soft delete applied"
  | .poolClosing => "Closing database connection pool"
  | .pipelineStarted .. => "Deletion pipeline started"
  | .queueFull _ => "Deletion queue is full, rejecting job"
  | .draining _ => "Draining deletion pipeline"
  | .drained => "Deletion pipeline stopped"
  | .workerStarted _ => "Delete worker started"
  | .workerStopped _ => "Delete worker stopped"
  | .jobApplied .. => "Delete job applied"
  | .jobFailed .. => "Failed to apply delete job"
  | .idCollision .. => "Short id collision, retrying"
  | .batchCollision .. => "Short id collision in batch, retrying"
  | .storeConnected _ => "Store connected"
  | .ready .. => "Service ready"
  | .statsFailed _ => "Failed to read store statistics"
  | .shuttingDown => "Shutting down"
  | .shutDown => "Shutdown complete"

def fields : Event → List (String × FieldValue)
  | .fileInit path => [("path", .plain path)]
  | .unknownOption name value => [("key", .plain name), ("value", .plain value)]
  | .compacted path entries unparsed =>
    [("path", .plain path), ("entries", .number entries), ("unparsed", .number unparsed)]
  | .malformedRecord path line cause =>
    [("path", .plain path), ("line", .number line), ("error", .plain cause.message)]
  | .deletionsAppended owner bytes => [("owner_id", .quoted owner), ("bytes", .number bytes)]
  | .deletionsExecuted owner requested deleted =>
    [("owner_id", .quoted owner), ("requested", .number requested), ("deleted", .number deleted)]
  | .pipelineStarted workers capacity => [("workers", .number workers), ("capacity", .number capacity)]
  | .queueFull job => [("owner_id", .plain job.owner), ("ids", .number job.ids.length)]
  | .draining workers => [("workers", .number workers)]
  | .workerStarted worker | .workerStopped worker => [("worker_id", .number worker)]
  | .jobApplied worker job =>
    [("worker_id", .number worker), ("owner_id", .plain job.owner), ("ids", .number job.ids.length)]
  | .jobFailed worker job cause =>
    [("worker_id", .number worker), ("owner_id", .plain job.owner), ("ids", .plain (Text.Quoted.list job.ids)),
      ("error", .plain cause.message)]
  | .idCollision attempt id | .batchCollision attempt id => [("attempt", .number attempt), ("id", .quoted id)]
  | .storeConnected kind => [("storage", .quoted kind)]
  | .ready urls users => [("urls", .number urls), ("users", .number users)]
  | .statsFailed cause => [("error", .plain cause)]
  | _ => []

end Event
end ShortLinks
