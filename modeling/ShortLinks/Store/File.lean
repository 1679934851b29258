import ShortLinks.Disk
import ShortLinks.Store.Log

/-!
# The file store

Entries kept in a record log on disk. The store holds the log open and only ever appends to it; every call
reads the log anew under its path. Opening the store compacts the log: it is written anew beside the old
one, with one record for each id, and then takes its name.
-/

set_option autoImplicit false

namespace ShortLinks

structure FileStore where
  path : String
  log : Nat
  disk : Disk

namespace FileStore

/-- Reads the log at a path; a log that is not there is empty. Every line that cannot be read is noted. -/
def readLog (path : String) : Action StoreError Disk Log := do
  match ← Action.attempt (Disk.readFile path) with
  | .error cause => if cause = .notFound then pure Log.empty else Action.fail (.io cause)
  | .ok content =>
    let lines := (Bytes.lines content).map Log.readLine
    Action.emitAll ((Log.faults lines).map fun (number, cause) => .malformedRecord path number cause)
    pure (Log.ofLines lines)

def besidePath (path : String) : String :=
  let names := Disk.segments path
  String.intercalate "/" (names.dropLast ++ [names.getLastD "" ++ ".compact"])

/-- Writes the log at a path anew and opens the new one. -/
def compactLog (path : String) : Action StoreError Disk Nat := do
  let log ← readLog path
  Action.mapError StoreError.io (Disk.writeFile (besidePath path) log.toBytes)
  Action.mapError StoreError.io (Disk.rename (besidePath path) path)
  let number ← Action.mapError StoreError.io (Disk.openFile path)
  Action.emit (.compacted path log.entries.size log.unparsed.length)
  pure number

def openLog (path : String) : Action StoreError Disk Nat := do
  let _ ← Action.mapError StoreError.io (Disk.openFile path)
  compactLog path

def onDisk {ε α : Type} (a : Action ε Disk α) : Action ε FileStore α :=
  Action.onPart FileStore.disk (fun disk s => { s with disk }) a

def readAll : Action StoreError FileStore Log := do
  let s ← Action.state
  onDisk (readLog s.path)

def append (records : List Entry) : Action StoreError FileStore Unit := do
  let s ← Action.state
  onDisk (Action.mapError StoreError.io (Disk.append s.log (Log.recordLines records)))

/-- Writes the log anew; if that fails the store goes on with the log it had open. -/
def compact : Action StoreError FileStore Unit := do
  let s ← Action.state
  let log ← onDisk (compactLog s.path)
  Action.modify fun s => { s with log }

def reopen : Action StoreError FileStore Unit := do
  let s ← Action.state
  let log ← onDisk (openLog s.path)
  Action.modify fun s => { s with log }

def add (e : Entry) : Action StoreError FileStore String := do
  let log ← readAll
  match log.refusal? e with
  | some refusal => Action.fail refusal
  | none =>
    append [e]
    pure e.id

def createBatch (batch : List Entry) : Action StoreError FileStore (List Entry) := do
  let log ← readAll
  match firstTaken? log.contains batch with
  | some id => Action.fail (.duplicateId id)
  | none =>
    let (answers, records) := log.storeItems batch
    append records
    pure answers

def softDelete (requester : String) (ids : List String) : Action StoreError FileStore Unit := do
  let log ← readAll
  let records := log.tombstones requester ids
  Action.emit (.deletionsAppended requester (Log.recordLines records).length)
  append records

instance : Store FileStore where
  add := add
  getById id := do
    let log ← readAll
    pure (log.get? id)
  allByOwner owner := do
    let log ← readAll
    pure (log.entries.toList.filter (·.isOwnedBy owner))
  createBatch := createBatch
  softDelete := softDelete
  stats := do
    let log ← readAll
    pure (Stats.ofEntries log.entries.toList)
  ping := do
    let s ← Action.state
    onDisk (Action.mapError StoreError.io (Disk.inspect s.path))
  close := pure ()

end FileStore
end ShortLinks
