import ShortLinks.Deletion.Pipeline
import ShortLinks.Proofs.Action

/-!
# What each operation does to a pipeline

How a job that is submitted, a worker that takes the next job and a worker that applies its job change the pipeline,
with all that can happen. Which jobs are queued and held never depends on what the store answers, and, if one looks
at some aspect of the jobs only, on nothing but that aspect.
-/

set_option autoImplicit false

namespace ShortLinks.Deletion

def Tally.noting (tally : Tally) : Except StoreError Unit → Tally
  | .ok () => { tally with applied := tally.applied + 1 }
  | .error _ => { tally with failed := tally.failed + 1 }

namespace Pipeline

variable {σ τ ε α β γ : Type} {p : Pipeline σ} {q : Pipeline τ} {worker : Nat} {job job' : Job}

def held (p : Pipeline σ) (worker : Nat) : Option Job := p.workers[worker]?.join

theorem held_of_idle (h : p.workers[worker]? = some none) : p.held worker = none := by
  rw [held, h]
  rfl

theorem held_lt (h : p.held worker = some job) : worker < p.workers.length := by
  refine Nat.lt_of_not_le fun hle => ?_
  rw [held, List.getElem?_eq_none hle] at h
  cases h

theorem held_set (p : Pipeline σ) (other worker : Nat) (x : Option Job) :
    { p with workers := p.workers.set other x }.held worker =
      if other = worker ∧ other < p.workers.length then x else p.held worker := by
  unfold held
  show (p.workers.set other x)[worker]?.join = _
  by_cases heq : other = worker
  · subst heq
    by_cases hlt : other < p.workers.length
    · simp [hlt]
    · simp [hlt]
  · simp [heq]

/-- The job that a worker takes if it takes one now. -/
def next (p : Pipeline σ) (worker : Nat) : Option Job :=
  if p.workers[worker]? = some none then p.queue.head? else none

inductive Submits (job : Job) (p : Pipeline σ) : Except SubmitError Unit → Pipeline σ → Prop where
  | dropped (hids : job.ids = []) : Submits job p (.ok ()) p
  | closed (hids : job.ids ≠ []) (hclosed : p.accepting = false) : Submits job p (.error .shuttingDown) p
  | queued (hids : job.ids ≠ []) (hopen : p.accepting = true) (hroom : p.queue.length < p.capacity) :
      Submits job p (.ok ()) { p with queue := p.queue ++ [job], tally.submitted := p.tally.submitted + 1 }
  | full (hids : job.ids ≠ []) (hopen : p.accepting = true) (hfull : p.capacity ≤ p.queue.length) :
      Submits job p (.error .queueFull) { p with tally.rejected := p.tally.rejected + 1 }

theorem submit_cases (job : Job) (p : Pipeline σ) :
    Submits job p ((submit job).run p).outcome ((submit job).run p).state := by
  show Submits job p (submit job p).outcome (submit job p).state
  unfold submit
  split
  · next hids => exact .dropped (List.isEmpty_iff.mp hids)
  · next hids =>
    have hids : job.ids ≠ [] := fun h => hids (List.isEmpty_iff.mpr h)
    split
    · next hclosed => exact .closed hids (by simpa using hclosed)
    · next hopen =>
      have hopen : p.accepting = true := by simpa using hopen
      split
      · next hroom => exact .queued hids hopen hroom
      · next hfull => exact .full hids hopen (Nat.le_of_not_lt hfull)

theorem Submits.capacity {r : Except SubmitError Unit} {p' : Pipeline σ} (h : Submits job p r p') :
    p'.capacity = p.capacity := by
  cases h <;> rfl

theorem submit_outcome_eq (job : Job) (p : Pipeline σ) : ((submit job).run p).outcome =
    if job.ids = [] then .ok ()
    else if p.accepting = true then if p.queue.length < p.capacity then .ok () else .error .queueFull
    else .error .shuttingDown := by
  have hsubmit := submit_cases job p
  generalize ((submit job).run p).outcome = r at hsubmit ⊢
  generalize ((submit job).run p).state = p' at hsubmit
  cases hsubmit with
  | dropped hids => rw [if_pos hids]
  | closed hids hclosed => rw [if_neg hids, if_neg (by simp [hclosed])]
  | queued hids hopen hroom => rw [if_neg hids, if_pos hopen, if_pos hroom]
  | full hids hopen hfull => rw [if_neg hids, if_pos hopen, if_neg (Nat.not_lt_of_le hfull)]

theorem submit_outcome (p : Pipeline σ) (hids : job.ids ≠ []) :
    (((submit job).run p).outcome = .ok () ↔ p.accepting = true ∧ p.queue.length < p.capacity) ∧
    (((submit job).run p).outcome = .error .queueFull ↔ p.accepting = true ∧ p.capacity ≤ p.queue.length) ∧
    (((submit job).run p).outcome = .error .shuttingDown ↔ p.accepting = false) := by
  rw [submit_outcome_eq, if_neg hids]
  by_cases hopen : p.accepting = true
  · by_cases hroom : p.queue.length < p.capacity
    · simp [hopen, hroom]
    · simp [hopen, hroom, Nat.le_of_not_lt hroom]
  · simp [hopen]

theorem take_eq (worker : Nat) (p : Pipeline σ) : take worker p =
    match p.next worker with
    | none => p
    | some job => { p with queue := p.queue.tail, workers := p.workers.set worker (some job) } := by
  unfold take next
  split
  · next hidle hqueue => simp [hidle, hqueue]
  · next hother =>
    by_cases hidle : p.workers[worker]? = some none
    · cases hqueue : p.queue with
      | nil => simp [hidle]
      | cons job rest => exact absurd hqueue (hother job rest hidle)
    · simp [hidle]

theorem take_of_next_none (h : p.next worker = none) : take worker p = p := by
  rw [take_eq, h]

theorem take_of_next_some (h : p.next worker = some job) :
    take worker p = { p with queue := p.queue.tail, workers := p.workers.set worker (some job) } := by
  rw [take_eq, h]

theorem next_eq_some (h : p.next worker = some job) :
    p.workers[worker]? = some none ∧ p.queue = job :: p.queue.tail := by
  unfold next at h
  split at h
  · next hidle =>
    refine ⟨hidle, ?_⟩
    cases hqueue : p.queue with
    | nil => rw [hqueue] at h; cases h
    | cons job' rest =>
      rw [hqueue] at h
      cases h
      rfl
  · cases h

section Applying

variable [Store σ]

/-- What a worker does with the job that it holds: whatever the store answers, the worker is idle again. -/
inductive Finishes (worker : Nat) (p : Pipeline σ) : Pipeline σ → Prop where
  | idle (hidle : p.held worker = none) : Finishes worker p p
  | applied (job : Job) (hheld : p.held worker = some job) : Finishes worker p
      { p with
        store := ((Store.softDelete job.owner job.ids).run p.store).state
        workers := p.workers.set worker none
        tally := p.tally.noting ((Store.softDelete job.owner job.ids).run p.store).outcome }

theorem finish_cases (worker : Nat) (p : Pipeline σ) :
    ((finish worker : Action ε (Pipeline σ) Unit).run p).outcome = .ok () ∧
      Finishes worker p ((finish worker : Action ε (Pipeline σ) Unit).run p).state := by
  generalize hr : ((finish worker : Action ε (Pipeline σ) Unit).run p).outcome = r
  generalize hp' : ((finish worker : Action ε (Pipeline σ) Unit).run p).state = p'
  have hends := Action.ends_state_bind.mp (show (finish worker : Action ε (Pipeline σ) Unit).Ends p r p' from ⟨hr, hp'⟩)
  cases hheld : p.workers[worker]?.join with
  | none =>
    rw [hheld] at hends
    obtain ⟨rfl, rfl⟩ := Action.ends_pure.mp hends
    exact ⟨rfl, .idle hheld⟩
  | some job =>
    rw [hheld] at hends
    have hends := Action.ends_set_bind.mp hends
    have hdelete : (onStore (Action.attempt (Store.softDelete job.owner job.ids)) :
        Action ε (Pipeline σ) (Except StoreError Unit)).Ends { p with workers := p.workers.set worker none }
        (.ok ((Store.softDelete job.owner job.ids).run p.store).outcome)
        { p with
          store := ((Store.softDelete job.owner job.ids).run p.store).state
          workers := p.workers.set worker none } :=
      Action.ends_onPart.mpr ⟨_, Action.ends_attempt.mpr ⟨_, ⟨rfl, rfl⟩, rfl⟩, rfl⟩
    have happlied := Finishes.applied job hheld
    have hnote := hdelete.bind_iff.mp hends
    generalize ((Store.softDelete job.owner job.ids).run p.store).outcome = outcome at hnote happlied
    cases outcome with
    | ok x =>
      obtain ⟨rfl, rfl⟩ := hnote
      exact ⟨rfl, happlied⟩
    | error cause =>
      obtain ⟨rfl, rfl⟩ := hnote
      exact ⟨rfl, happlied⟩

theorem Finishes.unique {p' p'' : Pipeline σ} (h : Finishes worker p p') (h' : Finishes worker p p'') : p' = p'' := by
  cases h with
  | idle hidle =>
    cases h' with
    | idle => rfl
    | applied job hheld => simp [hidle] at hheld
  | applied job hheld =>
    cases h' with
    | idle hidle => simp [hheld] at hidle
    | applied job' hheld' =>
      obtain rfl : job = job' := Option.some.inj (hheld.symm.trans hheld')
      rfl

theorem Finishes.capacity {p' : Pipeline σ} (h : Finishes worker p p') : p'.capacity = p.capacity := by
  cases h <;> rfl

/-- A worker that is done with its job is idle, and nothing else has happened to the queue and the workers. -/
structure Idles (worker : Nat) (p p' : Pipeline σ) : Prop where
  idle : p'.held worker = none
  others : ∀ other, p.held other = none → p'.held other = none
  queue : p'.queue = p.queue
  workers : p'.workers.length = p.workers.length
  accepting : p'.accepting = p.accepting

theorem Finishes.idles {p' : Pipeline σ} (h : Finishes worker p p') : Idles worker p p' := by
  cases h with
  | idle hidle => exact ⟨hidle, fun _ hother => hother, rfl, rfl, rfl⟩
  | applied job hheld =>
    have hset := held_set p worker
    refine ⟨?_, fun other hother => ?_, rfl, List.length_set, rfl⟩
    · exact (hset worker none).trans (if_pos ⟨rfl, held_lt hheld⟩)
    · refine (hset other none).trans ?_
      rw [hother, ite_self]

end Applying

/-- Two pipelines, over any two stores, that look alike to one who sees only the aspect `f` of the jobs. -/
structure Resembles (f : Job → β) (p : Pipeline σ) (q : Pipeline τ) : Prop where
  capacity : p.capacity = q.capacity
  queue : p.queue.map f = q.queue.map f
  workers : p.workers.map (Option.map f) = q.workers.map (Option.map f)
  accepting : p.accepting = q.accepting

namespace Resembles

variable {f : Job → β}

theorem length_queue (h : Resembles f p q) : p.queue.length = q.queue.length := by
  simpa using congrArg List.length h.queue

theorem length_workers (h : Resembles f p q) : p.workers.length = q.workers.length := by
  simpa using congrArg List.length h.workers

theorem getElem?_workers (h : Resembles f p q) (worker : Nat) :
    p.workers[worker]?.map (Option.map f) = q.workers[worker]?.map (Option.map f) := by
  have hworkers := congrArg (fun l => l[worker]?) h.workers
  simpa only [List.getElem?_map] using hworkers

theorem idle_iff (h : Resembles f p q) (worker : Nat) :
    p.workers[worker]? = some none ↔ q.workers[worker]? = some none := by
  have hidle : ∀ x : Option (Option Job), x = some none ↔ x.map (Option.map f) = some none := by
    intro x
    cases x with
    | none => simp
    | some x => cases x <;> simp
  rw [hidle, hidle q.workers[worker]?, h.getElem?_workers worker]

theorem held (h : Resembles f p q) (worker : Nat) : (p.held worker).map f = (q.held worker).map f := by
  have hworker := h.getElem?_workers worker
  unfold Pipeline.held
  generalize p.workers[worker]? = x at hworker
  generalize q.workers[worker]? = y at hworker
  cases x <;> cases y <;> simp_all

theorem next (h : Resembles f p q) (worker : Nat) : (p.next worker).map f = (q.next worker).map f := by
  unfold Pipeline.next
  have hidle := h.idle_iff worker
  by_cases hp : p.workers[worker]? = some none
  · rw [if_pos hp, if_pos (hidle.mp hp), ← List.head?_map, ← List.head?_map, h.queue]
  · rw [if_neg hp, if_neg fun hq => hp (hidle.mpr hq)]

theorem set_worker (h : Resembles f p q) (worker : Nat) {x y : Option Job} (hxy : x.map f = y.map f) :
    (p.workers.set worker x).map (Option.map f) = (q.workers.set worker y).map (Option.map f) := by
  rw [List.map_set, List.map_set, h.workers, hxy]

end Resembles

/-- Two actions that answer alike on pipelines that look alike, and leave them looking alike. -/
def Mirrors (f : Job → β) (a : Action ε (Pipeline σ) α) (b : Action ε (Pipeline τ) α) : Prop :=
  ∀ ⦃p q⦄, Resembles f p q → (a.run p).outcome = (b.run q).outcome ∧ Resembles f (a.run p).state (b.run q).state

variable {f : Job → β}

theorem mirrors_pure (f : Job → β) (x : α) :
    Mirrors f (pure x : Action ε (Pipeline σ) α) (pure x : Action ε (Pipeline τ) α) :=
  fun _ _ h => ⟨rfl, h⟩

theorem mirrors_modify {g : Pipeline σ → Pipeline σ} {g' : Pipeline τ → Pipeline τ}
    (h : ∀ p q, Resembles f p q → Resembles f (g p) (g' q)) :
    Mirrors f (Action.modify g : Action ε _ Unit) (Action.modify g') :=
  fun p q hpq => ⟨rfl, h p q hpq⟩

theorem Mirrors.bind {a : Action ε (Pipeline σ) α} {b : Action ε (Pipeline τ) α} {a' : α → Action ε (Pipeline σ) γ}
    {b' : α → Action ε (Pipeline τ) γ} (h : Mirrors f a b) (h' : ∀ x, Mirrors f (a' x) (b' x)) :
    Mirrors f (a >>= a') (b >>= b') := by
  intro p q hpq
  have hfirst := h hpq
  rw [Action.run_bind, Action.run_bind]
  rcases ha : a.run p with ⟨outcome, p', events⟩
  rcases hb : b.run q with ⟨outcome', q', events'⟩
  rw [ha, hb] at hfirst
  obtain ⟨rfl, hstate⟩ := hfirst
  cases outcome with
  | ok x => exact h' x hstate
  | error e => exact ⟨rfl, hstate⟩

theorem mirrors_state_bind {a : Pipeline σ → Action ε (Pipeline σ) α} {b : Pipeline τ → Action ε (Pipeline τ) α}
    (h : ∀ p q, Resembles f p q → Mirrors f (a p) (b q)) : Mirrors f (Action.state >>= a) (Action.state >>= b) :=
  fun p q hpq => h p q hpq hpq

theorem mirrors_submit (hf : f job = f job') (hids : job.ids = [] ↔ job'.ids = []) :
    Mirrors f (submit job : Action SubmitError (Pipeline σ) Unit) (submit job' : Action SubmitError (Pipeline τ) Unit) := by
  intro p q hpq
  have hlength := hpq.length_queue
  have hcapacity := hpq.capacity
  have haccepting := hpq.accepting
  have hp := submit_cases job p
  have hq := submit_cases job' q
  generalize ((submit job).run p).outcome = r at hp
  generalize ((submit job).run p).state = p' at hp
  generalize ((submit job').run q).outcome = s at hq
  generalize ((submit job').run q).state = q' at hq
  -- both are answered alike; the other pairs of cases contradict each other
  cases hp with
  | dropped h =>
    cases hq with
    | dropped => exact ⟨rfl, hpq⟩
    | closed h' | queued h' | full h' => exact absurd (hids.mp h) h'
  | closed h hclosed =>
    cases hq with
    | dropped h' => exact absurd (hids.mpr h') h
    | closed => exact ⟨rfl, hpq⟩
    | queued _ hopen | full _ hopen => simp_all
  | queued h hopen hroom =>
    cases hq with
    | dropped h' => exact absurd (hids.mpr h') h
    | closed _ hclosed => simp_all
    | queued =>
      refine ⟨rfl, ⟨hcapacity, ?_, hpq.workers, haccepting⟩⟩
      simp [hpq.queue, hf]
    | full => omega
  | full h hopen hfull =>
    cases hq with
    | dropped h' => exact absurd (hids.mpr h') h
    | closed _ hclosed => simp_all
    | queued => omega
    | full => exact ⟨rfl, ⟨hcapacity, hpq.queue, hpq.workers, haccepting⟩⟩

theorem resembles_take (h : Resembles f p q) (worker : Nat) : Resembles f (take worker p) (take worker q) := by
  have hnext := h.next worker
  cases hp : p.next worker with
  | none =>
    have hq : q.next worker = none := by simpa [hp] using hnext.symm
    rw [take_of_next_none hp, take_of_next_none hq]
    exact h
  | some job =>
    obtain ⟨job', hq, hjob⟩ : ∃ job', q.next worker = some job' ∧ f job' = f job := by
      simpa [hp] using hnext.symm
    rw [take_of_next_some hp, take_of_next_some hq]
    refine ⟨h.capacity, ?_, h.set_worker worker (by simp [hjob]), h.accepting⟩
    show p.queue.tail.map f = q.queue.tail.map f
    rw [List.map_tail, List.map_tail, h.queue]

section Workers

variable [Store σ] [Store τ]

theorem mirrors_finish (f : Job → β) (worker : Nat) :
    Mirrors f (finish worker : Action ε (Pipeline σ) Unit) (finish worker : Action ε (Pipeline τ) Unit) := by
  intro p q hpq
  have hheld := hpq.held worker
  obtain ⟨hpok, hp⟩ := finish_cases (ε := ε) worker p
  obtain ⟨hqok, hq⟩ := finish_cases (ε := ε) worker q
  refine ⟨hpok.trans hqok.symm, ?_⟩
  generalize ((finish worker : Action ε (Pipeline σ) Unit).run p).state = p' at hp
  generalize ((finish worker : Action ε (Pipeline τ) Unit).run q).state = q' at hq
  cases hp with
  | idle hp =>
    cases hq with
    | idle => exact hpq
    | applied job hq => simp [hp, hq] at hheld
  | applied job hp =>
    cases hq with
    | idle hq => simp [hp, hq] at hheld
    | applied job' hq => exact ⟨hpq.capacity, hpq.queue, hpq.set_worker worker rfl, hpq.accepting⟩

theorem mirrors_work (f : Job → β) (worker : Nat) :
    Mirrors f (work worker : Action ε (Pipeline σ) Unit) (work worker : Action ε (Pipeline τ) Unit) :=
  (mirrors_modify fun _ _ h => resembles_take h worker).bind fun _ => mirrors_finish f worker

theorem mirrors_workThrough (f : Job → β) (n : Nat) :
    Mirrors f (workThrough n : Action ε (Pipeline σ) Unit) (workThrough n : Action ε (Pipeline τ) Unit) := by
  induction n with
  | zero => exact mirrors_pure f ()
  | succ n ih => exact (mirrors_work f 0).bind fun _ => ih

theorem mirrors_drain (f : Job → β) :
    Mirrors f (drain : Action ε (Pipeline σ) Unit) (drain : Action ε (Pipeline τ) Unit) := by
  refine mirrors_state_bind fun p q h => ?_
  rw [h.length_queue]
  exact mirrors_workThrough f q.queue.length

theorem mirrors_finishAll (f : Job → β) (n : Nat) :
    Mirrors f (finishAll n : Action ε (Pipeline σ) Unit) (finishAll n : Action ε (Pipeline τ) Unit) := by
  induction n with
  | zero => exact mirrors_pure f ()
  | succ n ih => exact ih.bind fun _ => mirrors_finish f n

theorem mirrors_shutdown (f : Job → β) :
    Mirrors f (shutdown : Action ε (Pipeline σ) Unit) (shutdown : Action ε (Pipeline τ) Unit) := by
  have hclose : ∀ (p : Pipeline σ) (q : Pipeline τ), Resembles f p q →
      Resembles f { p with accepting := false } { q with accepting := false } :=
    fun p q h => ⟨h.capacity, h.queue, h.workers, rfl⟩
  refine (mirrors_modify hclose).bind fun _ => mirrors_state_bind fun p q h => ?_
  have hlength := h.length_workers
  by_cases hp : p.workers = []
  · have hq : q.workers = [] := List.eq_nil_of_length_eq_zero (by simpa [hp] using hlength.symm)
    rw [if_pos hp, if_pos hq]
    exact mirrors_pure f ()
  · have hq : q.workers ≠ [] := fun hq => hp (List.eq_nil_of_length_eq_zero (by simpa [hq] using hlength))
    rw [if_neg hp, if_neg hq, hlength]
    have hevents : ∀ events, Mirrors f (Action.emitAll events : Action ε (Pipeline σ) Unit)
        (Action.emitAll events : Action ε (Pipeline τ) Unit) := fun _ _ _ h => ⟨rfl, h⟩
    refine (hevents [_]).bind fun _ => (mirrors_finishAll f _).bind fun _ => (mirrors_drain f).bind fun _ => ?_
    refine (hevents _).bind fun _ => (mirrors_modify ?_).bind fun _ => hevents [_]
    exact fun p q h => ⟨h.capacity, h.queue, rfl, h.accepting⟩

end Workers

end Pipeline
end ShortLinks.Deletion
