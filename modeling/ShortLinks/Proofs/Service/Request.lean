import Mathlib.Data.Set.Card
import ShortLinks.Service

/-!
# Requests

What a service may be asked, step by step. A run of the service is a list of requests, among them the steps of the
deletion pipeline, which may come at any time.
-/

set_option autoImplicit false

namespace ShortLinks.Service

/-- What a service is asked to do. The last four let the deletion pipeline go on. -/
inductive Request where
  | create (owner target : String)
  | createBatch (owner : String) (items : List Submission)
  | requestDelete (owner : String) (ids : List String)
  | resolve (id : String)
  | redirectTarget (id : String)
  | listByOwner (owner : String)
  | stats
  | ping
  | newOwnerId
  | take (worker : Nat)
  | finish (worker : Nat)
  | drain
  | shutdown

inductive Response where
  | outcome (outcome : CreateOutcome)
  | entries (entries : List Entry)
  | entry (entry : Option Entry)
  | target (target : String)
  | stats (stats : Stats)
  | ownerId (id : String)
  | done

namespace Request

def perform {σ : Type} [Store σ] : Request → Action ServiceError (Service σ) Response
  | .create owner target => Response.outcome <$> Service.create owner target
  | .createBatch owner items => Response.entries <$> Service.createBatch owner items
  | .requestDelete owner ids => (fun _ => .done) <$> Service.requestDelete owner ids
  | .resolve id => Response.entry <$> Service.resolve id
  | .redirectTarget id => Response.target <$> Service.redirectTarget id
  | .listByOwner owner => Response.entries <$> Service.listByOwner owner
  | .stats => Response.stats <$> Service.stats
  | .ping => (fun _ => .done) <$> Service.ping
  | .newOwnerId => Response.ownerId <$> Service.newOwnerId
  | .take worker => (fun _ => .done) <$> onPipeline (Action.modify (Deletion.Pipeline.take worker))
  | .finish worker => (fun _ => .done) <$> onPipeline (Deletion.Pipeline.finish worker)
  | .drain => (fun _ => .done) <$> Service.drain
  | .shutdown => (fun _ => .done) <$> Service.shutdown

def creates : Request → Bool
  | .create .. | .createBatch .. => true
  | _ => false

def owner : Request → String
  | .create owner _ | .createBatch owner _ => owner
  | _ => ""

def deletes : Request → Bool
  | .finish _ | .drain | .shutdown => true
  | _ => false

def creations : Request → Except ServiceError Response → List (String × String)
  | .create _ target, .ok (.outcome o) => [(target, o.entry.id)]
  | .createBatch _ items, .ok (.entries entries) => (items.map Submission.target).zip (entries.map Entry.id)
  | _, _ => []

/-- How many entries more a request leaves, where some targets are vacant. -/
noncomputable def growth (vacant : String → Prop) : Request → Except ServiceError Response → Nat
  | .create _ _, .ok (.outcome (.created _)) => 1
  | .createBatch _ items, .ok (.entries _) => { t | t ∈ items.map Submission.target ∧ vacant t }.ncard
  | _, _ => 0

variable {request : Request} {r : Except ServiceError Response} {p : String × String} {vacant : String → Prop}

theorem creates_of_deletes (h : request.deletes = true) : request.creates = false := by
  cases request <;> first | rfl | cases h

theorem creates_of_mem_creations (h : p ∈ request.creations r) : request.creates = true := by
  cases request <;> first | rfl | cases h

theorem not_mem_creations (h : request.creates = false) : p ∉ request.creations r := by
  intro hp
  rw [creates_of_mem_creations hp] at h
  cases h

theorem growth_eq_zero (h : request.creates = false) : request.growth vacant r = 0 := by
  cases request <;> first | rfl | cases h

end Request

end ShortLinks.Service
