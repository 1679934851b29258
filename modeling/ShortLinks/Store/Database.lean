import ShortLinks.Database
import ShortLinks.Database.Address
import ShortLinks.Store

/-!
# The database store

Entries kept in a table of a database. Uniqueness is the database's matter: one statement either inserts an
entry or gives back the one that has its target, and comparing the id that comes back with the one that
was sent tells the two apart. Every call has a time limit, which holds for the wait for a connection too.
-/

set_option autoImplicit false

namespace ShortLinks

open Database (DatabaseError Statement Reply Row)

structure DatabaseStore (δ : Type) where
  database : δ
  closed : Bool
  queryLimit : Duration
  pingLimit : Duration

namespace DatabaseStore

variable {δ α : Type} [Database δ]

/-- Gets a connection; a closed store has none to give. -/
def acquire (explain : DatabaseError → StoreError) (late : StoreError) : Action StoreError (DatabaseStore δ) Unit := fun s =>
  if s.closed then ⟨.error (explain .poolClosed), s, []⟩
  else
    let (access, database) := Database.acquire s.database
    ⟨access.outcome explain late, { s with database }, []⟩

def release : Action StoreError (DatabaseStore δ) Unit :=
  Action.modify fun s => { s with database := Database.release s.database }

/-- Sends a statement over a connection. An answer that does not come runs into the limit; a failure means
what `explain` says. -/
def send (limit : Duration) (explain : DatabaseError → StoreError) (statement : Statement) :
    Action StoreError (DatabaseStore δ) Reply := fun s =>
  let (reply, database) := Database.send statement s.database
  let s := { s with database }
  match reply with
  | .failed cause => ⟨.error (explain cause), s, []⟩
  | .stalled => ⟨.error (.timeout limit), s, []⟩
  | reply => ⟨.ok reply, s, []⟩

/-- Runs an action with a connection, which is given back whatever happens. -/
def connected (explain : DatabaseError → StoreError) (late : StoreError) (a : Action StoreError (DatabaseStore δ) α) :
    Action StoreError (DatabaseStore δ) α := do
  acquire explain late
  let outcome ← Action.attempt a
  release
  Action.ofExcept outcome

/-- A call under a time limit, which runs from the wait for a connection on. -/
def bounded (limit : DatabaseStore δ → Duration) (explain : DatabaseError → StoreError)
    (a : Action StoreError (DatabaseStore δ) α) : Action StoreError (DatabaseStore δ) α := do
  let s ← Action.state
  connected explain (.timeout (limit s)) a

def firstRow (explain : DatabaseError → StoreError) : Reply → Action StoreError (DatabaseStore δ) Row
  | .rows (row :: _) => pure row
  | _ => Action.fail (explain .rowNotFound)

def allRows : Reply → List Row
  | .rows rows => rows
  | _ => []

def read (explain : DatabaseError → StoreError) (x : Except DatabaseError α) :
    Action StoreError (DatabaseStore δ) α :=
  Action.mapError explain (Action.ofExcept x)

def upsert (e : Entry) : Action StoreError (DatabaseStore δ) (String × Option String) := do
  let s ← Action.state
  let explain := StoreError.ofDatabase e.id
  let reply ← send s.queryLimit explain (.upsert e)
  let row ← firstRow explain reply
  read explain (Row.stored row)

def add (e : Entry) : Action StoreError (DatabaseStore δ) String := do
  let (id, _) ← bounded queryLimit (.ofDatabase e.id) (upsert e)
  if id = e.id then pure id else Action.fail (.createConflict id)

def getById (id : String) : Action StoreError (DatabaseStore δ) (Option Entry) := bounded queryLimit .database do
  let s ← Action.state
  let reply ← send s.queryLimit .database (.selectById id)
  match allRows reply with
  | [] => pure none
  | row :: _ => some <$> read .database (Row.entry row)

def allByOwner (owner : String) : Action StoreError (DatabaseStore δ) (List Entry) :=
  if owner = "" then pure []
  else bounded queryLimit .database do
    let s ← Action.state
    let reply ← send s.queryLimit .database (.selectByOwner owner)
    read .database ((allRows reply).mapM Row.entry)

/-- Upserts the items of a batch in order. An item whose target was taken takes the id and the owner of the
row that has it. -/
def upsertAll : List Entry → Action StoreError (DatabaseStore δ) (List Entry)
  | [] => pure []
  | e :: rest => do
    let (id, owner) ← upsert e
    let answer := if id = e.id then e else { e with id, owner }
    return answer :: (← upsertAll rest)

def createBatch (batch : List Entry) : Action StoreError (DatabaseStore δ) (List Entry) := bounded queryLimit .database do
  let s ← Action.state
  let _ ← send s.queryLimit .database .start
  let answers ← upsertAll batch
  let _ ← send s.queryLimit .database .commit
  pure answers

def softDelete (requester : String) (ids : List String) : Action StoreError (DatabaseStore δ) Unit :=
  if requester = "" ∨ ids = [] then pure ()
  else do
    let reply ← bounded queryLimit .database do
      let s ← Action.state
      send s.queryLimit .database (.delete requester ids)
    let deleted := match reply with
      | .affected n => n
      | _ => 0
    Action.emit (.deletionsExecuted requester ids.length deleted)

def stats : Action StoreError (DatabaseStore δ) Stats := bounded queryLimit .database do
  let s ← Action.state
  let reply ← send s.queryLimit .database .count
  let row ← firstRow .database reply
  read .database (Row.stats row)

def ping : Action StoreError (DatabaseStore δ) Unit := bounded pingLimit .database do
  let s ← Action.state
  let _ ← send s.pingLimit .database .probe
  pure ()

def close : Action StoreError (DatabaseStore δ) Unit := do
  Action.emit .poolClosing
  Action.modify fun s => { s with closed := true }

def notMigrated (cause : DatabaseError) : StoreError := .database (.migration cause)

/-- Brings the table up to date. The wait for a connection is limited by the pool alone. -/
def migrate : Action StoreError (DatabaseStore δ) Unit := connected notMigrated (notMigrated .poolTimedOut) do
  let s ← Action.state
  let _ ← send s.queryLimit notMigrated .start
  let _ ← send s.queryLimit notMigrated .migrate
  let _ ← send s.queryLimit notMigrated .commit
  pure ()

/-- Opens the store: the address must be usable, the pool must get a connection, the database must answer, and
the table is brought up to date. -/
def connect (url : String) : Action StoreError (DatabaseStore δ) Unit := do
  Action.mapError StoreError.database (Database.Address.check url)
  connected .database (.database .poolTimedOut) (pure ())
  ping
  migrate

instance : Store (DatabaseStore δ) where
  add := add
  getById := getById
  allByOwner := allByOwner
  createBatch := createBatch
  softDelete := softDelete
  stats := stats
  ping := ping
  close := close

end DatabaseStore
end ShortLinks
