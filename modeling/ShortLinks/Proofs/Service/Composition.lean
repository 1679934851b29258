import ShortLinks.Proofs.Service.Request
import ShortLinks.Proofs.Store.Contents

/-!
# What creating and reading are made of

Creating and reading are put together from few parts: ids are drawn, the store is called, and a collision is noted.
What is true of these parts, and of two actions one after the other if it is true of both, is true of every request
that is answered at once.
-/

set_option autoImplicit false

namespace ShortLinks.Service

variable {σ α β : Type} [Store σ] {Q : {α : Type} → Action ServiceError (Service σ) α → Prop}

/-- A property that is true of the parts of creating and reading, and passes from parts to the whole. -/
structure Composes (Q : {α : Type} → Action ServiceError (Service σ) α → Prop) : Prop where
  pure {α : Type} (x : α) : Q (Pure.pure x)
  fail {α : Type} (e : ServiceError) : Q (Action.fail e : Action ServiceError (Service σ) α)
  bind {α β : Type} {a : Action ServiceError (Service σ) α} {f : α → Action ServiceError (Service σ) β} :
    Q a → (∀ x, Q (f x)) → Q (a >>= f)
  state : Q Action.state
  draw {α : Type} (f : Random → Except Identifier.DrawError α × Random) : Q (draw f)
  emit (event : Event) : (Action.emit event : Action ServiceError (Service σ) Unit).Quiet → Q (Action.emit event)
  onStore {α : Type} (call : Call) {f : α → Reply} {a : Action StoreError σ α} : call.perform = f <$> a → Q (onStore a)
  attempt {α : Type} (call : Call) {f : α → Reply} {a : Action StoreError σ α} : call.perform = f <$> a →
    Q (Action.attempt (onPipeline (Deletion.Pipeline.onStore a)))

namespace Composes

theorem map (h : Composes Q) {a : Action ServiceError (Service σ) α} (ha : Q a) (f : α → β) : Q (f <$> a) := by
  rw [map_eq_pure_bind]
  exact h.bind ha fun x => h.pure (f x)

theorem existing (h : Composes Q) (requested : Entry) (id : String) :
    Q (existing requested id : Action ServiceError (Service σ) CreateOutcome) := by
  refine h.bind (h.onStore (.getById id) (f := .entry) rfl) fun found => ?_
  cases found <;> exact h.pure _

theorem addFresh (h : Composes Q) (owner target : String) (n : Nat) :
    Q (addFresh owner target n : Action ServiceError (Service σ) CreateOutcome) := by
  induction n with
  | zero => exact h.fail _
  | succ n ih =>
    refine h.bind (h.bind h.state fun s => h.draw _) fun id => ?_
    refine h.bind (h.attempt (.add _) (f := .id) rfl) fun outcome => ?_
    cases outcome with
    | ok => exact h.pure _
    | error e => cases e with
      | createConflict id => exact h.existing _ id
      | duplicateId id => exact h.bind (h.emit _ fun _ => rfl) fun _ => ih
      | _ => exact h.fail _

theorem create (h : Composes Q) (owner target : String) :
    Q (create owner target : Action ServiceError (Service σ) CreateOutcome) := by
  unfold Service.create
  cases checkTarget target with
  | error cause => exact h.fail _
  | ok => exact h.addFresh owner target maxAttempts

theorem addBatchFresh (h : Composes Q) (owner : String) (items : List Submission) (n : Nat) :
    Q (addBatchFresh owner items n : Action ServiceError (Service σ) (List Entry)) := by
  induction n with
  | zero => exact h.fail _
  | succ n ih =>
    refine h.bind h.state fun s => h.bind (h.draw _) fun ids => ?_
    refine h.bind (h.attempt (.createBatch _) (f := .stored) rfl) fun outcome => ?_
    cases outcome with
    | ok => exact h.pure _
    | error e => cases e with
      | duplicateId id => exact h.bind (h.emit _ fun _ => rfl) fun _ => ih
      | _ => exact h.fail _

theorem createBatch (h : Composes Q) (owner : String) (items : List Submission) :
    Q (createBatch owner items : Action ServiceError (Service σ) (List Entry)) := by
  unfold Service.createBatch
  cases firstBadItem? 0 items with
  | some failure => exact h.fail _
  | none =>
    dsimp only
    split
    · exact h.pure _
    · exact h.addBatchFresh owner items maxAttempts

theorem resolve (h : Composes Q) (id : String) : Q (resolve id : Action ServiceError (Service σ) (Option Entry)) :=
  h.onStore (.getById id) (f := .entry) rfl

theorem redirectTarget (h : Composes Q) (id : String) :
    Q (redirectTarget id : Action ServiceError (Service σ) String) := by
  refine h.bind (h.resolve id) fun found => ?_
  cases found with
  | none => exact h.fail _
  | some e =>
    dsimp only
    split
    · exact h.fail _
    · exact h.pure _

theorem listByOwner (h : Composes Q) (owner : String) :
    Q (listByOwner owner : Action ServiceError (Service σ) (List Entry)) := by
  unfold Service.listByOwner
  split
  · exact h.pure _
  · exact h.onStore (.allByOwner owner) (f := fun entries : List Entry => .owned entries) rfl

end Composes

def Request.atOnce : Request → Bool
  | .requestDelete .. | .take _ | .finish _ | .drain | .shutdown => false
  | _ => true

theorem Composes.perform (h : Composes Q) {request : Request} (honce : request.atOnce = true) :
    Q (request.perform : Action ServiceError (Service σ) Response) := by
  cases request with
  | create owner target => exact h.map (h.create owner target) _
  | createBatch owner items => exact h.map (h.createBatch owner items) _
  | resolve id => exact h.map (h.resolve id) _
  | redirectTarget id => exact h.map (h.redirectTarget id) _
  | listByOwner owner => exact h.map (h.listByOwner owner) _
  | stats => exact h.map (h.onStore .stats (f := .stats) rfl) _
  | ping => exact h.map (h.onStore .ping (f := fun _ => .done) rfl) _
  | newOwnerId => exact h.map (h.bind h.state fun s => h.draw _) _
  | requestDelete | take | finish | drain | shutdown => cases honce

end ShortLinks.Service
