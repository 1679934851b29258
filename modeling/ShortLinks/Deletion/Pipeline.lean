import ShortLinks.Store

/-!
# The deletion pipeline

Requests to delete are queued and applied later. The queue takes a fixed number of jobs; workers take them in
the order in which they came, and a worker that holds a job applies it to the store before it takes
another. A job that fails is noted and not tried again. After the pipeline is closed it takes no more
jobs, but those queued are still applied.
-/

set_option autoImplicit false

namespace ShortLinks.Deletion

structure Tally where
  submitted : Nat
  rejected : Nat
  applied : Nat
  failed : Nat
deriving DecidableEq, Repr

def Tally.zero : Tally := ⟨0, 0, 0, 0⟩

structure Pipeline (σ : Type) where
  store : σ
  capacity : Nat
  queue : List Job
  workers : List (Option Job)
  accepting : Bool
  tally : Tally

inductive SubmitError where
  | queueFull
  | shuttingDown
deriving DecidableEq, Repr

def SubmitError.message : SubmitError → String
  | .queueFull => "deletion queue is full"
  | .shuttingDown => "deletion pipeline is shutting down"

namespace Pipeline

variable {σ ε α : Type}

/-- A pipeline with idle workers and room for `capacity` jobs; there is at least one of each. -/
def start (store : σ) (workers capacity : Nat) : Effect ε (Pipeline σ) Unit where
  outcome := .ok ()
  state := {
    store
    capacity := max capacity 1
    queue := []
    workers := List.replicate (max workers 1) none
    accepting := true
    tally := .zero }
  events := .pipelineStarted (max workers 1) capacity :: (List.range (max workers 1)).map .workerStarted

/-- Queues a job; one without ids is dropped. -/
def submit (job : Job) : Action SubmitError (Pipeline σ) Unit := fun p =>
  if job.isEmpty then ⟨.ok (), p, []⟩
  else if !p.accepting then ⟨.error .shuttingDown, p, []⟩
  else if p.queue.length < p.capacity then
    ⟨.ok (), { p with queue := p.queue ++ [job], tally.submitted := p.tally.submitted + 1 }, []⟩
  else ⟨.error .queueFull, { p with tally.rejected := p.tally.rejected + 1 }, [.queueFull job]⟩

def take (worker : Nat) (p : Pipeline σ) : Pipeline σ :=
  match p.workers[worker]?, p.queue with
  | some none, job :: queue => { p with queue, workers := p.workers.set worker (some job) }
  | _, _ => p

def note (worker : Nat) (job : Job) (outcome : Except StoreError Unit) : Action ε (Pipeline σ) Unit :=
  match outcome with
  | .ok () => do
    Action.modify fun p => { p with tally.applied := p.tally.applied + 1 }
    Action.emit (.jobApplied worker job)
  | .error cause => do
    Action.modify fun p => { p with tally.failed := p.tally.failed + 1 }
    Action.emit (.jobFailed worker job cause)

def onStore (a : Action ε σ α) : Action ε (Pipeline σ) α := Action.onPart store (fun store p => { p with store }) a

variable [Store σ]

def finish (worker : Nat) : Action ε (Pipeline σ) Unit := do
  let p ← Action.state
  match p.workers[worker]?.join with
  | none => pure ()
  | some job =>
    Action.set { p with workers := p.workers.set worker none }
    let outcome ← onStore (Action.attempt (Store.softDelete job.owner job.ids))
    note worker job outcome

def work (worker : Nat) : Action ε (Pipeline σ) Unit := do
  Action.modify (take worker)
  finish worker

/-- The first worker takes and applies `n` jobs, as far as there are any. -/
def workThrough : Nat → Action ε (Pipeline σ) Unit
  | 0 => pure ()
  | n + 1 => do
    work 0
    workThrough n

def drain : Action ε (Pipeline σ) Unit := do
  let p ← Action.state
  workThrough p.queue.length

def finishAll : Nat → Action ε (Pipeline σ) Unit
  | 0 => pure ()
  | n + 1 => do
    finishAll n
    finish n

/-- Takes no more jobs, and lets the workers apply what they hold and what is queued, and stop. Once they have
stopped there is nothing left to do. -/
def shutdown : Action ε (Pipeline σ) Unit := do
  Action.modify fun p => { p with accepting := false }
  let p ← Action.state
  if p.workers = [] then pure ()
  else
    Action.emit (.draining p.workers.length)
    finishAll p.workers.length
    drain
    Action.emitAll ((List.range p.workers.length).map .workerStopped)
    Action.modify fun p => { p with workers := [] }
    Action.emit .drained

end Pipeline
end ShortLinks.Deletion
