import ShortLinks.Settings.Environment
import ShortLinks.Text.Duration
import ShortLinks.Text.Unsigned

/-!
# Settings

Settings come from the environment, are checked once, and are then fixed. A file path selects the file
store, otherwise an address or a host selects the database, otherwise entries are kept in memory. What is
shown of the settings masks the password of a database address.
-/

set_option autoImplicit false

namespace ShortLinks

structure DatabaseSettings where
  url : String
  maxConnections : Nat
  connectLimit : Duration
  queryLimit : Duration
  pingLimit : Duration
deriving DecidableEq, Repr

inductive Storage where
  | memory
  | file (path : String)
  | database (settings : DatabaseSettings)
deriving DecidableEq, Repr

def Storage.kind : Storage → String
  | .memory => "memory"
  | .file _ => "file"
  | .database _ => "postgres"

structure Settings where
  storage : Storage
  shortIdLength : Nat
  ownerIdLength : Nat
  deleteWorkers : Nat
  deleteQueueCapacity : Nat
  logLevel : String
  logFormat : String
deriving DecidableEq, Repr

inductive SettingsError where
  /-- A part of a database address that must come with its host. -/
  | incomplete (name : String) (cause : Unset)
  | shortIdLength (given : Nat)
  | ownerIdLength (given : Nat)
  | deleteWorkers (given : Nat)
  | deleteQueueCapacity (given : Nat)
  | logFormat (given : String)
  | databaseScheme (masked : String)
  | noConnections
  | noTime
deriving DecidableEq, Repr

def SettingsError.chain : SettingsError → List String
  | .incomplete name cause =>
    ["Failed to load storage configuration", s!"{name} must be set when DB_HOST is provided", cause.message]
  | .shortIdLength given => [s!"SHORT_ID_LENGTH must be between 4 and 32, got {given}"]
  | .ownerIdLength given => [s!"OWNER_ID_LENGTH must be between 4 and 64, got {given}"]
  | .deleteWorkers given => [s!"DELETE_WORKERS must be between 1 and 256, got {given}"]
  | .deleteQueueCapacity given => [s!"DELETE_QUEUE_CAPACITY must be between 1 and 1000000, got {given}"]
  | .logFormat given => [s!"LOG_FORMAT must be 'text' or 'json', got '{given}'"]
  | .databaseScheme masked =>
    [s!"DATABASE_URL must start with 'postgres://' or 'postgresql://', got '{masked}'"]
  | .noConnections => ["DB_MAX_CONNECTIONS must be at least 1"]
  | .noTime => ["DB_QUERY_TIMEOUT_MS and DB_PING_TIMEOUT_MS must be greater than 0"]

namespace Settings

/-- The number a variable gives; anything else gives the default. -/
def number (env : Environment) (parse? : String → Option Nat) (name : String) (default : Nat) : Nat :=
  ((env.text? name).bind parse?).getD default

def component (env : Environment) (name : String) : Except SettingsError String :=
  (env.text name).mapError (.incomplete name)

def databaseUrl? (env : Environment) : Except SettingsError (Option String) :=
  match env.nonEmpty? "DATABASE_URL" with
  | some url => .ok (some url)
  | none => match env.text? "DB_HOST" with
    | none => .ok none
    | some host => do
      let port := (env.text? "DB_PORT").getD "5432"
      let user ← component env "DB_USER"
      let password ← component env "DB_PASSWORD"
      let name ← component env "DB_NAME"
      return some s!"postgres://{user}:{password}@{host}:{port}/{name}"

def databaseSettings (env : Environment) (url : String) : DatabaseSettings where
  url
  maxConnections := number env Text.Unsigned.parse32? "DB_MAX_CONNECTIONS" 10
  connectLimit := .ofSeconds (number env Text.Unsigned.parse64? "DB_CONNECT_TIMEOUT" 30)
  queryLimit := .ofMilliseconds (number env Text.Unsigned.parse64? "DB_QUERY_TIMEOUT_MS" 5000)
  pingLimit := .ofMilliseconds (number env Text.Unsigned.parse64? "DB_PING_TIMEOUT_MS" 1000)

def storage? (env : Environment) : Except SettingsError Storage :=
  match env.nonEmpty? "FILE_STORAGE_PATH" with
  | some path => .ok (.file path)
  | none => do match ← databaseUrl? env with
    | some url => return .database (databaseSettings env url)
    | none => return .memory

def ofEnvironment? (processors : Nat) (env : Environment) : Except SettingsError Settings := do
  return {
    storage := ← storage? env
    shortIdLength := number env Text.Unsigned.parse64? "SHORT_ID_LENGTH" 8
    ownerIdLength := number env Text.Unsigned.parse64? "OWNER_ID_LENGTH" 16
    deleteWorkers := number env Text.Unsigned.parse64? "DELETE_WORKERS" processors
    deleteQueueCapacity := number env Text.Unsigned.parse64? "DELETE_QUEUE_CAPACITY" 10000
    logLevel := (env.text? "RUST_LOG").getD "info"
    logFormat := (env.text? "LOG_FORMAT").getD "text" }

def splitAt? (mark : List Char) : List Char → Option (List Char × List Char)
  | [] => if mark.isPrefixOf [] then some ([], []) else none
  | c :: rest =>
    if mark.isPrefixOf (c :: rest) then some ([], (c :: rest).drop mark.length)
    else (splitAt? mark rest).map fun (before, after) => (c :: before, after)

def beforeLastColon? (s : List Char) : Option (List Char) :=
  match s.reverse.dropWhile (· != ':') with
  | [] => none
  | _ :: rest => some rest.reverse

/-- An address with stars in place of its password: what stands between the last colon of the credentials and
the first at sign. -/
def mask (url : String) : String :=
  let masked? := do
    let (scheme, rest) ← splitAt? "://".toList url.toList
    let (credentials, host) ← splitAt? ['@'] rest
    let user ← beforeLastColon? credentials
    some (String.ofList (scheme ++ "://".toList ++ user ++ ":***@".toList ++ host))
  masked?.getD url

def checkDatabase (d : DatabaseSettings) : Except SettingsError Unit :=
  if !(d.url.startsWith "postgres://" || d.url.startsWith "postgresql://") then
    .error (.databaseScheme (mask d.url))
  else if d.maxConnections = 0 then .error .noConnections
  else if d.queryLimit = ⟨0⟩ ∨ d.pingLimit = ⟨0⟩ then .error .noTime
  else .ok ()

/-- Whether every setting is in its range; the first that is not counts. -/
def check (s : Settings) : Except SettingsError Unit :=
  if s.shortIdLength < 4 ∨ 32 < s.shortIdLength then .error (.shortIdLength s.shortIdLength)
  else if s.ownerIdLength < 4 ∨ 64 < s.ownerIdLength then .error (.ownerIdLength s.ownerIdLength)
  else if s.deleteWorkers = 0 ∨ 256 < s.deleteWorkers then .error (.deleteWorkers s.deleteWorkers)
  else if s.deleteQueueCapacity = 0 ∨ 1000000 < s.deleteQueueCapacity then
    .error (.deleteQueueCapacity s.deleteQueueCapacity)
  else if s.logFormat ≠ "text" ∧ s.logFormat ≠ "json" then .error (.logFormat s.logFormat)
  else match s.storage with
    | .database d => checkDatabase d
    | .memory | .file _ => .ok ()

def load (processors : Nat) (env : Environment) : Except SettingsError Settings := do
  let s ← ofEnvironment? processors env
  s.check
  return s

def storageLines : Storage → List String
  | .memory => ["Storage: memory"]
  | .file path => [s!"Storage: file ({path})"]
  | .database d => [
    s!"Storage: postgres ({mask d.url})",
    s!"Max connections: {d.maxConnections}",
    s!"Query timeout: {d.queryLimit.text}",
    s!"Ping timeout: {d.pingLimit.text}"]

def summary (s : Settings) : List String :=
  storageLines s.storage ++ [
    s!"Short id length: {s.shortIdLength}",
    s!"Owner id length: {s.ownerIdLength}",
    s!"Delete workers: {s.deleteWorkers}",
    s!"Delete queue capacity: {s.deleteQueueCapacity}",
    s!"Log level: {s.logLevel}",
    s!"Log format: {s.logFormat}"]

end Settings
end ShortLinks
