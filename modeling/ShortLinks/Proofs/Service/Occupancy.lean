import ShortLinks.Proofs.Deletion.Pipeline
import ShortLinks.Proofs.Deletion.Steps
import ShortLinks.Proofs.Service.Composition
import ShortLinks.Proofs.Service.Deduplication

/-!
# What a request to delete tells

A request to delete is answered by the deletion pipeline alone: it is told that the queue is full or closed, and nothing
about the ids that it names. So whoever asks cannot tell services apart that hold different entries.
-/

set_option autoImplicit false

namespace ShortLinks

namespace Deletion.Pipeline

variable {σ ε : Type}

theorem maintains_capacity_submit (n : Nat) (job : Job) :
    (submit job : Action SubmitError (Pipeline σ) Unit).Maintains fun p => p.capacity = n :=
  fun p h => (submit_cases job p).capacity.trans h

variable [Store σ]

theorem capacity_composes (n : Nat) :
    Composes fun {α : Type} (a : Action ε (Pipeline σ) α) => a.Maintains fun p => p.capacity = n where
  pure := Action.maintains_pure _
  bind := Action.Maintains.bind
  state _ h := h
  emitAll _ _ _ h := h
  close _ h := h
  take worker p h := by
    show (take worker p).capacity = n
    rw [take_eq]
    split <;> exact h
  finish worker p h := (finish_cases worker p).2.capacity.trans h
  clear _ h := h

end Deletion.Pipeline

namespace Service

variable {σ τ ε α β : Type}

def KeepsPipeline (a : Action ε (Service σ) α) : Prop :=
  ∀ s, ∃ store, (a.run s).state.pipeline = { s.pipeline with store }

theorem KeepsPipeline.bind {a : Action ε (Service σ) α} {f : α → Action ε (Service σ) β} (ha : KeepsPipeline a)
    (hf : ∀ x, KeepsPipeline (f x)) : KeepsPipeline (a >>= f) := by
  intro s
  obtain ⟨store, hfirst⟩ := ha s
  rcases Action.ends_bind.mp (Action.ends_run (a >>= f) s) with ⟨x, s₁, ⟨-, rfl⟩, -, hrest⟩ | ⟨e, ⟨-, hstate⟩, -⟩
  · obtain ⟨store', hsecond⟩ := hf x (a.run s).state
    exact ⟨store', by rw [← hrest, hsecond, hfirst]⟩
  · exact ⟨store, by rw [← hstate, hfirst]⟩

variable [Store σ] [Store τ]

theorem keepsPipeline_composes : Composes fun {α : Type} (a : Action ServiceError (Service σ) α) => KeepsPipeline a where
  pure _ s := ⟨s.pipeline.store, rfl⟩
  fail _ s := ⟨s.pipeline.store, rfl⟩
  bind := KeepsPipeline.bind
  state s := ⟨s.pipeline.store, rfl⟩
  draw _ s := ⟨s.pipeline.store, rfl⟩
  emit _ _ s := ⟨s.pipeline.store, rfl⟩
  onStore _ _ _ _ _ := ⟨_, rfl⟩
  attempt _ _ _ _ _ := ⟨_, rfl⟩

/-- The part of a request that the pipeline is asked to do. -/
def Request.inPipeline : Request → Action ServiceError (Deletion.Pipeline σ) Unit
  | .requestDelete owner ids =>
    Action.mapError (fun e => .unavailable e.message) (Deletion.Pipeline.submit ⟨owner, ids⟩)
  | .take worker => Action.modify (Deletion.Pipeline.take worker)
  | .finish worker => Deletion.Pipeline.finish worker
  | .drain => Deletion.Pipeline.drain
  | .shutdown => Deletion.Pipeline.shutdown
  | _ => pure ()

theorem run_shutdown (s : Service σ) : ∃ store, ((shutdown : Action ε (Service σ) Unit).run s).state.pipeline =
    { ((Deletion.Pipeline.shutdown : Action ε (Deletion.Pipeline σ) Unit).run s.pipeline).state with store } := by
  have hclosing : KeepsPipeline (do
      let _ : Except StoreError Unit ← onPipeline (Deletion.Pipeline.onStore (Action.attempt Store.close))
      pure () : Action ε (Service σ) Unit) := .bind (fun _ => ⟨_, rfl⟩) fun _ s => ⟨s.pipeline.store, rfl⟩
  rcases Action.ends_bind.mp (Action.ends_run (shutdown : Action ε (Service σ) Unit) s) with
    ⟨x, s₁, ⟨-, rfl⟩, -, hrest⟩ | ⟨e, ⟨-, hstate⟩, -⟩
  · obtain ⟨store, hclosed⟩ := hclosing ((onPipeline Deletion.Pipeline.shutdown).run s).state
    exact ⟨store, hrest ▸ hclosed⟩
  · exact ⟨_, by rw [← hstate]; rfl⟩

/-- But for what becomes of the store, the pipeline is left as by the part of the request that it is asked to do. -/
theorem after_pipeline (s : Service σ) (request : Request) :
    ∃ store, (s.after [request]).pipeline = { (request.inPipeline.run s.pipeline).state with store } := by
  cases honce : request.atOnce with
  | true =>
    obtain ⟨store, hkept⟩ := keepsPipeline_composes.perform honce s
    cases request with
    | requestDelete | take | finish | drain | shutdown => cases honce
    | _ => exact ⟨store, hkept⟩
  | false =>
    have hmap : ∀ a : Action ServiceError (Service σ) Unit, (((fun _ => Response.done) <$> a).run s).state = (a.run s).state :=
      fun a => by rw [Action.run_map]
    cases request with
    | requestDelete | take | finish | drain => exact ⟨_, congrArg Service.pipeline (hmap _)⟩
    | shutdown =>
      obtain ⟨store, hstate⟩ := run_shutdown (ε := ServiceError) s
      exact ⟨store, (congrArg Service.pipeline (hmap _)).trans hstate⟩
    | _ => cases honce

theorem answer_requestDelete (s : Service σ) (owner : String) (ids : List String) :
    s.answer (.requestDelete owner ids) =
      (((Deletion.Pipeline.submit ⟨owner, ids⟩).run s.pipeline).outcome.mapError fun e => .unavailable e.message).map
        fun _ => .done := by
  unfold answer Request.perform
  rw [Action.run_map]
  rfl

section Capacity

variable {s : Service σ} {n : Nat}

theorem maintains_capacity (n : Nat) (request : Request) :
    (request.inPipeline : Action ServiceError (Deletion.Pipeline σ) Unit).Maintains fun p => p.capacity = n := by
  have hparts := Deletion.Pipeline.capacity_composes (σ := σ) (ε := ServiceError) n
  cases request with
  | requestDelete owner ids => exact Deletion.Pipeline.maintains_capacity_submit n ⟨owner, ids⟩
  | take worker => exact hparts.take worker
  | finish worker => exact hparts.finish worker
  | drain => exact hparts.drain
  | shutdown => exact hparts.shutdown
  | _ => exact hparts.pure ()

theorem after_capacity (s : Service σ) (requests : List Request) :
    (s.after requests).pipeline.capacity = s.pipeline.capacity := by
  induction requests generalizing s with
  | nil => rfl
  | cons request requests ih =>
    obtain ⟨store, hstep⟩ := after_pipeline s request
    rw [after_cons, ih, hstep]
    exact maintains_capacity _ request s.pipeline rfl

end Capacity

/-- Two requests that ask the same of the pipeline, but for the ids that are named and who names them. -/
inductive Request.Parallel : Request → Request → Prop where
  | atOnce {request other : Request} (h : request.atOnce = true) (h' : other.atOnce = true) : Parallel request other
  | requestDelete {owner owner' : String} {ids ids' : List String} (hids : ids = [] ↔ ids' = []) :
      Parallel (.requestDelete owner ids) (.requestDelete owner' ids')
  | take (worker : Nat) : Parallel (.take worker) (.take worker)
  | finish (worker : Nat) : Parallel (.finish worker) (.finish worker)
  | drain : Parallel .drain .drain
  | shutdown : Parallel .shutdown .shutdown

/-- Two pipelines that look alike to one who cannot tell jobs apart. -/
abbrev Alike (p : Deletion.Pipeline σ) (q : Deletion.Pipeline τ) : Prop := p.Resembles (fun _ => ()) q

variable {s : Service σ} {t : Service τ} {request other : Request} {requests others : List Request}

theorem Request.inPipeline_of_atOnce (h : request.atOnce = true) :
    (request.inPipeline : Action ServiceError (Deletion.Pipeline σ) Unit) = pure () := by
  cases request with
  | requestDelete | take | finish | drain | shutdown => cases h
  | _ => rfl

theorem Request.Parallel.mirrors (h : request.Parallel other) : Deletion.Pipeline.Mirrors (fun _ => ())
    (request.inPipeline : Action ServiceError (Deletion.Pipeline σ) Unit)
    (other.inPipeline : Action ServiceError (Deletion.Pipeline τ) Unit) := by
  cases h with
  | atOnce h h' =>
    rw [Request.inPipeline_of_atOnce h, Request.inPipeline_of_atOnce h']
    exact Deletion.Pipeline.mirrors_pure _ ()
  | @requestDelete owner owner' ids ids' hids =>
    intro p q hpq
    have hsubmit : Deletion.Pipeline.Mirrors (fun _ => ())
        (Deletion.Pipeline.submit ⟨owner, ids⟩ : Action Deletion.SubmitError (Deletion.Pipeline σ) Unit)
        (Deletion.Pipeline.submit ⟨owner', ids'⟩ : Action Deletion.SubmitError (Deletion.Pipeline τ) Unit) :=
      Deletion.Pipeline.mirrors_submit rfl hids
    obtain ⟨houtcome, hstate⟩ := hsubmit hpq
    refine ⟨?_, hstate⟩
    rw [Request.inPipeline, Request.inPipeline, Action.run_mapError, Action.run_mapError, houtcome]
  | take worker => exact Deletion.Pipeline.mirrors_modify fun _ _ hpq => Deletion.Pipeline.resembles_take hpq worker
  | finish worker => exact Deletion.Pipeline.mirrors_finish _ worker
  | drain => exact Deletion.Pipeline.mirrors_drain _
  | shutdown => exact Deletion.Pipeline.mirrors_shutdown _

theorem Request.Parallel.alike (h : request.Parallel other) (hst : Alike s.pipeline t.pipeline) :
    Alike (s.after [request]).pipeline (t.after [other]).pipeline := by
  obtain ⟨store, hs⟩ := after_pipeline s request
  obtain ⟨store', ht⟩ := after_pipeline t other
  obtain ⟨-, hcapacity, hqueue, hworkers, haccepting⟩ := h.mirrors hst
  rw [hs, ht]
  exact ⟨hcapacity, hqueue, hworkers, haccepting⟩

theorem alike_after (h : List.Forall₂ Request.Parallel requests others) (hst : Alike s.pipeline t.pipeline) :
    Alike (s.after requests).pipeline (t.after others).pipeline := by
  induction h generalizing s t with
  | nil => exact hst
  | cons hrequest _ ih => exact ih (hrequest.alike hst)

/-- What it means that by requests to delete, whoever makes them, one cannot tell apart the runs of two services. -/
structure Indistinct (s : Service σ) (t : Service τ) : Prop where
  /-- The answer is the same wherever as many jobs are queued and the pipeline is open or closed in both. -/
  occupied {requests others : List Request}
    (hqueue : (s.after requests).pipeline.queue.length = (t.after others).pipeline.queue.length)
    (haccepting : (s.after requests).pipeline.accepting = (t.after others).pipeline.accepting)
    {owner owner' : String} {ids ids' : List String} (hids : ids = [] ↔ ids' = []) :
    (s.after requests).answer (.requestDelete owner ids) = (t.after others).answer (.requestDelete owner' ids')
  parallel {requests others : List Request} (h : List.Forall₂ Request.Parallel requests others) :
    (s.after requests).pipeline.queue.length = (t.after others).pipeline.queue.length ∧
    (s.after requests).pipeline.accepting = (t.after others).pipeline.accepting

theorem answer_requestDelete_congr (hcapacity : s.pipeline.capacity = t.pipeline.capacity)
    (hqueue : s.pipeline.queue.length = t.pipeline.queue.length) (haccepting : s.pipeline.accepting = t.pipeline.accepting)
    {owner owner' : String} {ids ids' : List String} (hids : ids = [] ↔ ids' = []) :
    s.answer (.requestDelete owner ids) = t.answer (.requestDelete owner' ids') := by
  rw [answer_requestDelete, answer_requestDelete, Deletion.Pipeline.submit_outcome_eq, Deletion.Pipeline.submit_outcome_eq,
    hcapacity, hqueue, haccepting]
  simp only [hids]

theorem indistinct_of_alike (hst : Alike s.pipeline t.pipeline) : s.Indistinct t where
  occupied {requests others} hqueue haccepting _ _ _ _ hids := by
    refine answer_requestDelete_congr ?_ hqueue haccepting hids
    rw [after_capacity, after_capacity, hst.capacity]
  parallel h := ⟨(alike_after h hst).length_queue, (alike_after h hst).accepting⟩

end Service

end ShortLinks
