import ShortLinks.Deletion.Pipeline
import ShortLinks.Identifier
import ShortLinks.Service.Error

/-!
# The service

Shortens targets, resolves short ids and takes requests to delete. A target is shortened once: asking again
gives the entry that is there. Ids are drawn at random, and one that is taken is drawn again.
-/

set_option autoImplicit false

namespace ShortLinks

structure Service (σ : Type) where
  pipeline : Deletion.Pipeline σ
  random : Random
  shortIdLength : Nat
  ownerIdLength : Nat

inductive CreateOutcome where
  | created (entry : Entry)
  | existing (entry : Entry)
deriving DecidableEq, Repr

namespace CreateOutcome

def entry : CreateOutcome → Entry
  | .created e | .existing e => e

def isNew : CreateOutcome → Bool
  | .created _ => true
  | .existing _ => false

end CreateOutcome

namespace Service

variable {σ ε α : Type}

def maxAttempts : Nat := 10

def onPipeline (a : Action ε (Deletion.Pipeline σ) α) : Action ε (Service σ) α :=
  Action.onPart pipeline (fun pipeline s => { s with pipeline }) a

def onStore (a : Action StoreError σ α) : Action ServiceError (Service σ) α :=
  onPipeline (Deletion.Pipeline.onStore (Action.mapError ServiceError.storage a))

def draw (f : Random → Except Identifier.DrawError α × Random) : Action ServiceError (Service σ) α := fun s =>
  let (outcome, random) := f s.random
  ⟨outcome.mapError fun e => .noIdentifier e.message, { s with random }, []⟩

def drawShortId : Action ServiceError (Service σ) String := do
  let s ← Action.state
  draw (Identifier.generate s.shortIdLength)

def newOwnerId : Action ServiceError (Service σ) String := do
  let s ← Action.state
  draw (Identifier.generate s.ownerIdLength)

variable [Store σ]

/-- The answer to a request whose target is taken. An entry that has gone meanwhile is answered by the
request itself under the id that was found. -/
def existing (requested : Entry) (id : String) : Action ServiceError (Service σ) CreateOutcome := do
  match ← onStore (Store.getById id) with
  | some e => pure (.existing e)
  | none => pure (.existing { requested with id })

/-- Adds an entry under fresh ids until one is free, from attempt `maxAttempts - n + 1` on, `n` times at
most. -/
def addFresh (owner target : String) : Nat → Action ServiceError (Service σ) CreateOutcome
  | 0 => Action.fail .tooManyCollisions
  | n + 1 => do
    let id ← drawShortId
    let e := Entry.create id target (some owner) none
    match ← Action.attempt (onPipeline (Deletion.Pipeline.onStore (Store.add e))) with
    | .ok _ => pure (.created e)
    | .error (.createConflict id) => existing e id
    | .error (.duplicateId id) =>
      Action.emit (.idCollision (maxAttempts - n) id)
      addFresh owner target n
    | .error cause => Action.fail (.storage cause)

def create (owner target : String) : Action ServiceError (Service σ) CreateOutcome :=
  match checkTarget target with
  | .error cause => Action.fail (.badTarget cause)
  | .ok () => addFresh owner target maxAttempts

def firstBadItem? (index : Nat) : List Submission → Option ServiceError
  | [] => none
  | item :: rest => match checkTarget item.target with
    | .error cause => some (.badItem index item cause)
    | .ok () => firstBadItem? (index + 1) rest

def batchEntries (owner : String) (items : List Submission) (ids : List String) : List Entry :=
  (items.zip ids).map fun (item, id) => Entry.create id item.target (some owner) item.correlation

/-- Adds a batch under fresh ids until all are free, `n` times at most. -/
def addBatchFresh (owner : String) (items : List Submission) : Nat → Action ServiceError (Service σ) (List Entry)
  | 0 => Action.fail .tooManyBatchCollisions
  | n + 1 => do
    let s ← Action.state
    let ids ← draw (Identifier.generateDistinct items.length s.shortIdLength)
    match ← Action.attempt (onPipeline (Deletion.Pipeline.onStore (Store.createBatch (batchEntries owner items ids)))) with
    | .ok stored => pure stored
    | .error (.duplicateId id) =>
      Action.emit (.batchCollision (maxAttempts - n) id)
      addBatchFresh owner items n
    | .error cause => Action.fail (.storage cause)

/-- Shortens a list of targets with one call to the store. Nothing is stored if one of them is no acceptable
URL. -/
def createBatch (owner : String) (items : List Submission) : Action ServiceError (Service σ) (List Entry) :=
  match firstBadItem? 0 items with
  | some failure => Action.fail failure
  | none => if items = [] then pure [] else addBatchFresh owner items maxAttempts

def resolve (id : String) : Action ServiceError (Service σ) (Option Entry) := onStore (Store.getById id)

def redirectTarget (id : String) : Action ServiceError (Service σ) String := do
  match ← resolve id with
  | none => Action.fail (.notFound id)
  | some e => if e.deleted then Action.fail (.gone id) else pure e.target

def listByOwner (owner : String) : Action ServiceError (Service σ) (List Entry) :=
  if owner = "" then pure [] else onStore (Store.allByOwner owner)

def stats : Action ServiceError (Service σ) Stats := onStore Store.stats

def ping : Action ServiceError (Service σ) Unit := onStore Store.ping

def requestDelete (owner : String) (ids : List String) : Action ServiceError (Service σ) Unit :=
  onPipeline (Action.mapError (fun e => .unavailable e.message) (Deletion.Pipeline.submit ⟨owner, ids⟩))

def drain : Action ε (Service σ) Unit := onPipeline Deletion.Pipeline.drain

def shutdown : Action ε (Service σ) Unit := do
  onPipeline Deletion.Pipeline.shutdown
  let _ : Except StoreError Unit ← onPipeline (Deletion.Pipeline.onStore (Action.attempt Store.close))
  pure ()

def start (store : σ) (random : Random) (shortIdLength ownerIdLength workers capacity : Nat) :
    Effect ε (Service σ) Unit :=
  let r : Effect ε (Deletion.Pipeline σ) Unit := Deletion.Pipeline.start store workers capacity
  ⟨r.outcome, { pipeline := r.state, random, shortIdLength, ownerIdLength }, r.events⟩

end Service
end ShortLinks
