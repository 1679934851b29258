import ShortLinks.Proofs.Deletion.Pipeline
import ShortLinks.Proofs.Deletion.Steps

/-!
# Jobs that wait

A job that was submitted waits until it is applied: it is queued, and then held by a worker. The pipeline applies jobs
that wait and no others, and lets none wait that was not submitted.
-/

set_option autoImplicit false

namespace ShortLinks.Deletion

variable {σ ω ε α β : Type}

/-- An action that applies only jobs that wait, and after which no other jobs wait than before. -/
def Consumes (waits : ω → Job → Prop) (a : Action ε ω α) : Prop :=
  ∀ w, (∀ job ∈ a.applied w, waits w job) ∧ ∀ job, waits (a.run w).state job → waits w job

namespace Consumes

variable {waits : ω → Job → Prop} {a : Action ε ω α}

theorem of_quiet (ha : a.Quiet) (hwaits : ∀ w job, waits (a.run w).state job → waits w job) : Consumes waits a := by
  intro w
  rw [ha w]
  exact ⟨nofun, hwaits w⟩

theorem pure (waits : ω → Job → Prop) (x : α) : Consumes waits (Pure.pure x : Action ε ω α) :=
  of_quiet (Action.quiet_pure x) fun _ _ h => h

theorem state (waits : ω → Job → Prop) : Consumes waits (Action.state : Action ε ω ω) :=
  of_quiet Action.quiet_state fun _ _ h => h

theorem bind {f : α → Action ε ω β} (ha : Consumes waits a) (hf : ∀ x, Consumes waits (f x)) :
    Consumes waits (a >>= f) := by
  intro w
  obtain ⟨happlied, hwaits⟩ := ha w
  rcases Action.ends_bind.mp (Action.ends_run (a >>= f) w) with ⟨x, w₁, hfirst, -, hrest⟩ | ⟨e, hfirst, -⟩
  · obtain ⟨happlied', hwaits'⟩ := hf x w₁
    obtain ⟨-, rfl⟩ := id hfirst
    rw [Action.applied_bind_ok hfirst, ← hrest]
    refine ⟨fun job hjob => ?_, fun job hjob => hwaits job (hwaits' job hjob)⟩
    rcases List.mem_append.mp hjob with hjob | hjob
    · exact happlied job hjob
    · exact hwaits job (happlied' job hjob)
  · rw [Action.applied_bind_error hfirst, ← hfirst.2]
    exact ⟨happlied, hwaits⟩

end Consumes

namespace Pipeline

variable {p : Pipeline σ} {job other : Job}

def Waits (p : Pipeline σ) (job : Job) : Prop := job ∈ p.queue ∨ some job ∈ p.workers

theorem waits_of_held {worker : Nat} (h : p.held worker = some job) : p.Waits job :=
  .inr (List.mem_of_getElem? (Option.join_eq_some_iff.mp h))

theorem Submits.waits {r : Except SubmitError Unit} {p' : Pipeline σ} (h : Submits job p r p') (hother : p'.Waits other) :
    p.Waits other ∨ other = job := by
  cases h with
  | queued =>
    rcases hother with hqueue | hheld
    · rcases List.mem_append.mp hqueue with hqueue | hnew
      · exact .inl (.inl hqueue)
      · exact .inr (List.mem_singleton.mp hnew)
    · exact .inl (.inr hheld)
  | _ => exact .inl hother

theorem waits_of_take {worker : Nat} (h : (take worker p).Waits job) : p.Waits job := by
  cases hnext : p.next worker with
  | none =>
    rw [take_of_next_none hnext] at h
    exact h
  | some first =>
    rw [take_of_next_some hnext] at h
    rcases h with hqueue | hheld
    · exact .inl (List.mem_of_mem_tail hqueue)
    · rcases List.mem_or_eq_of_mem_set hheld with hheld | heq
      · exact .inr hheld
      · cases heq
        rw [Waits, (next_eq_some hnext).2]
        exact .inl List.mem_cons_self

variable [Store σ]

theorem Finishes.waits {worker : Nat} {p' : Pipeline σ} (h : Finishes worker p p') (hjob : p'.Waits job) : p.Waits job := by
  cases h with
  | idle => exact hjob
  | applied =>
    rcases hjob with hqueue | hheld
    · exact .inl hqueue
    · exact .inr ((List.mem_or_eq_of_mem_set hheld).resolve_right nofun)

variable [LawfulStore σ]

theorem held_of_applied {worker : Nat} (h : job ∈ (finish worker : Action ε (Pipeline σ) Unit).applied p) :
    p.held worker = some job := by
  unfold finish at h
  rw [Action.applied_state_bind] at h
  cases hheld : p.workers[worker]?.join with
  | none =>
    rw [hheld] at h
    cases h
  | some job' =>
    rw [hheld] at h
    have hset : (Action.set { p with workers := p.workers.set worker none } : Action ε (Pipeline σ) Unit).Ends p (.ok ())
        { p with workers := p.workers.set worker none } := ⟨rfl, rfl⟩
    have hquiet : (onStore (Action.attempt (Store.softDelete job'.owner job'.ids)) :
        Action ε (Pipeline σ) (Except StoreError Unit)).Quiet :=
      (LawfulStore.quiet (.softDelete job'.owner job'.ids) (f := fun _ => .done) rfl).attempt.onPart _ _
    dsimp only at h
    rw [Action.applied_bind_ok hset] at h
    obtain ⟨outcome, p₁, hdelete⟩ : ∃ outcome p₁, (onStore (Action.attempt (Store.softDelete job'.owner job'.ids)) :
        Action ε (Pipeline σ) (Except StoreError Unit)).Ends { p with workers := p.workers.set worker none }
        (.ok outcome) p₁ := ⟨_, _, rfl, rfl⟩
    rw [Action.applied_bind_ok hdelete, hquiet] at h
    cases outcome with
    | ok x =>
      rw [List.mem_singleton.mp h]
      exact hheld
    | error cause => cases h

theorem consumes_finish (worker : Nat) : Consumes Waits (finish worker : Action ε (Pipeline σ) Unit) :=
  fun p => ⟨fun _ hjob => waits_of_held (held_of_applied hjob), fun _ hjob => (finish_cases worker p).2.waits hjob⟩

theorem consumes_composes : Composes fun {α : Type} (a : Action ε (Pipeline σ) α) => Consumes Waits a where
  pure := Consumes.pure Waits
  bind := Consumes.bind
  state := Consumes.state Waits
  emitAll _ hquiet := .of_quiet hquiet fun _ _ h => h
  close := .of_quiet (Action.quiet_modify _) fun _ _ h => h
  take _ := .of_quiet (Action.quiet_modify _) fun _ _ => waits_of_take
  finish := consumes_finish
  clear := .of_quiet (Action.quiet_modify _) fun _ _ h => h.imp_right nofun

end Pipeline
end ShortLinks.Deletion
