import ShortLinks.Deletion.Pipeline
import ShortLinks.Proofs.Store.History
import ShortLinks.Proofs.Store.Lawful

/-!
# What the pipeline does to the store

Whatever its workers do, in whatever order, the pipeline asks the store for deletions and for nothing else, and notes
every job that it has applied.
-/

set_option autoImplicit false

namespace ShortLinks.Deletion.Pipeline

variable {σ ε α β : Type}

theorem take_store (worker : Nat) (p : Pipeline σ) : (take worker p).store = p.store := by
  unfold take
  split <;> rfl

theorem submit_store (job : Job) (p : Pipeline σ) : ((submit job).run p).state.store = p.store := by
  show (submit job p).state.store = p.store
  unfold submit
  split
  · rfl
  · split
    · rfl
    · split <;> rfl

theorem submit_quiet (job : Job) : (submit job : Action SubmitError (Pipeline σ) Unit).Quiet := by
  intro p
  show ((submit job p).events.filterMap _) = []
  unfold submit
  split
  · rfl
  · split
    · rfl
    · split <;> rfl

section Composition

variable [Store σ] {Q : {α : Type} → Action ε (Pipeline σ) α → Prop}

/-- A property that is true of what workers do and of the parts of a shutdown, and passes from parts to the whole. -/
structure Composes (Q : {α : Type} → Action ε (Pipeline σ) α → Prop) : Prop where
  pure {α : Type} (x : α) : Q (Pure.pure x)
  bind {α β : Type} {a : Action ε (Pipeline σ) α} {f : α → Action ε (Pipeline σ) β} : Q a → (∀ x, Q (f x)) → Q (a >>= f)
  state : Q Action.state
  emitAll (events : List Event) : (Action.emitAll events : Action ε (Pipeline σ) Unit).Quiet → Q (Action.emitAll events)
  close : Q (Action.modify fun p => { p with accepting := false })
  take (worker : Nat) : Q (Action.modify (take worker))
  finish (worker : Nat) : Q (finish worker)
  clear : Q (Action.modify fun p => { p with workers := [] })

namespace Composes

theorem work (h : Composes Q) (worker : Nat) : Q (work worker) := h.bind (h.take worker) fun _ => h.finish worker

theorem workThrough (h : Composes Q) (n : Nat) : Q (workThrough n) := by
  induction n with
  | zero => exact h.pure ()
  | succ n ih => exact h.bind (h.work 0) fun _ => ih

theorem drain (h : Composes Q) : Q drain := h.bind h.state fun p => h.workThrough p.queue.length

theorem finishAll (h : Composes Q) (n : Nat) : Q (finishAll n) := by
  induction n with
  | zero => exact h.pure ()
  | succ n ih => exact h.bind ih fun _ => h.finish n

theorem shutdown (h : Composes Q) : Q shutdown := by
  have hstopped : ∀ n, (Action.emitAll ((List.range n).map .workerStopped) : Action ε (Pipeline σ) Unit).Quiet := by
    intro n p
    refine List.filterMap_eq_nil_iff.mpr fun event hevent => ?_
    obtain ⟨worker, -, rfl⟩ := List.mem_map.mp hevent
    rfl
  refine h.bind h.close fun _ => h.bind h.state fun p => ?_
  split
  · exact h.pure ()
  · refine h.bind (h.emitAll [_] fun _ => rfl) fun _ => h.bind (h.finishAll _) fun _ => h.bind h.drain fun _ => ?_
    exact h.bind (h.emitAll _ (hstopped _)) fun _ => h.bind h.clear fun _ => h.emitAll [_] fun _ => rfl

end Composes

end Composition

variable [Store σ] [LawfulStore σ]

/-- An action that does no more to the store than to apply the jobs that it notes. -/
def Applies (a : Action ε (Pipeline σ) α) : Prop :=
  ∀ p r p', LawfulStore.Ready p.store → a.Ends p r p' → LawfulStore.Ready p'.store ∧
    LawfulStore.contents p'.store = (LawfulStore.contents p.store).applyJobs (a.applied p)

theorem Applies.bind {a : Action ε (Pipeline σ) α} {f : α → Action ε (Pipeline σ) β} (ha : Applies a)
    (hf : ∀ x, Applies (f x)) : Applies (a >>= f) := by
  intro p r p' h hends
  rcases Action.ends_bind.mp hends with ⟨x, p₁, hfirst, hrest⟩ | ⟨e, hfirst, -⟩
  · obtain ⟨hready, hjobs⟩ := ha p _ p₁ h hfirst
    obtain ⟨hready', hjobs'⟩ := hf x p₁ r p' hready hrest
    rw [Action.applied_bind_ok hfirst, Contents.applyJobs_append, ← hjobs]
    exact ⟨hready', hjobs'⟩
  · rw [Action.applied_bind_error hfirst]
    exact ha p _ p' h hfirst

theorem applies_of_store_eq {a : Action ε (Pipeline σ) α} (ha : ∀ p, (a.run p).state.store = p.store) (hquiet : a.Quiet) :
    Applies a := by
  rintro p r p' h ⟨-, rfl⟩
  rw [ha, hquiet p]
  exact ⟨h, rfl⟩

theorem applies_job (worker : Nat) (job : Job) :
    Applies (do let outcome ← onStore (Action.attempt (Store.softDelete job.owner job.ids)); note worker job outcome :
      Action ε (Pipeline σ) Unit) := by
  intro p r p' h hends
  have hquiet : (onStore (Action.attempt (Store.softDelete job.owner job.ids)) :
      Action ε (Pipeline σ) (Except StoreError Unit)).Quiet :=
    (LawfulStore.quiet (.softDelete job.owner job.ids) (f := fun _ => .done) rfl).attempt.onPart _ _
  rcases Action.ends_bind.mp hends with ⟨outcome, p₁, hfirst, hrest⟩ | ⟨e, hfirst, -⟩
  · rw [Action.applied_bind_ok hfirst, hquiet p, List.nil_append]
    obtain ⟨st, hattempt, rfl⟩ := Action.ends_onPart.mp hfirst
    obtain ⟨r₀, hdelete, heq⟩ := Action.ends_attempt.mp hattempt
    cases heq
    obtain ⟨hready, rfl, hcontents⟩ := LawfulStore.softDelete_ends h hdelete
    obtain ⟨-, rfl⟩ := hrest
    exact ⟨hready, hcontents⟩
  · obtain ⟨st, hattempt, -⟩ := Action.ends_onPart.mp hfirst
    obtain ⟨r₀, -, heq⟩ := Action.ends_attempt.mp hattempt
    cases heq

theorem applies_finish (worker : Nat) : Applies (finish worker : Action ε (Pipeline σ) Unit) := by
  intro p r p' h hends
  have hrest := Action.ends_state_bind.mp hends
  unfold finish
  rw [Action.applied_state_bind]
  cases hheld : p.workers[worker]?.join with
  | none =>
    rw [hheld] at hrest
    exact applies_of_store_eq (fun _ => rfl) (Action.quiet_pure ()) p r p' h hrest
  | some job =>
    rw [hheld] at hrest
    have hidle := Action.ends_set_bind.mp hrest
    exact applies_job worker job { p with workers := p.workers.set worker none } r p' h hidle

theorem applies_composes : Composes fun {α : Type} (a : Action ε (Pipeline σ) α) => Applies a where
  pure x := applies_of_store_eq (fun _ => rfl) (Action.quiet_pure x)
  bind := Applies.bind
  state := applies_of_store_eq (fun _ => rfl) Action.quiet_state
  emitAll _ hquiet := applies_of_store_eq (fun _ => rfl) hquiet
  close := applies_of_store_eq (fun _ => rfl) (Action.quiet_modify _)
  take worker := applies_of_store_eq (take_store worker) (Action.quiet_modify _)
  finish := applies_finish
  clear := applies_of_store_eq (fun _ => rfl) (Action.quiet_modify _)

end ShortLinks.Deletion.Pipeline
