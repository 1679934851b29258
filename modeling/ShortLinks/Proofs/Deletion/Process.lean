import ShortLinks.Proofs.Deletion.Steps

/-!
# The pipeline as a process

Callers submit jobs and call for a shutdown, and workers take jobs, apply them and stop, all of them one step at a
time and in any order. A shutdown is three steps: intake is closed; the call gets its turn, which it keeps until the
workers have stopped, or returns at once where there are none left; the call returns. Steps that are not possible
change nothing.

What happens along a run is noted in logs. The logs are related by laws of one form: what comes out, and what is
then still inside, is what was inside and what went in.
-/

set_option autoImplicit false

namespace ShortLinks.Deletion

structure Process (σ : Type) where
  pipeline : Pipeline σ
  stopped : List Nat
  waiting : Nat
  /-- Whether a call has its turn, and waits for the workers. -/
  draining : Bool
  returned : Nat

inductive Step where
  | submit (job : Job)
  | take (worker : Nat)
  | finish (worker : Nat)
  | stop (worker : Nat)
  /-- A call for a shutdown. -/
  | close
  /-- A call gets its turn. -/
  | enter
  /-- The call that has its turn returns. -/
  | leave
deriving DecidableEq

namespace Process

variable {σ β γ : Type} {s : Process σ}

def start (store : σ) (workers capacity : Nat) : Process σ where
  pipeline := (Pipeline.start store workers capacity : Effect Empty (Pipeline σ) Unit).state
  stopped := []
  waiting := 0
  draining := false
  returned := 0

def mayStop (s : Process σ) (worker : Nat) : Prop :=
  s.pipeline.workers[worker]? = some none ∧ s.pipeline.accepting = false ∧ s.pipeline.queue = []

instance (s : Process σ) (worker : Nat) : Decidable (s.mayStop worker) := inferInstanceAs (Decidable (_ ∧ _))

def mayLeave (s : Process σ) : Prop := s.draining = true ∧ ∀ worker < s.pipeline.workers.length, worker ∈ s.stopped

instance (s : Process σ) : Decidable s.mayLeave := inferInstanceAs (Decidable (_ ∧ _))

/-- What is true at every point: the queue has room, and a worker has stopped or a shutdown has returned only where
nothing is left to do and nothing more will come. -/
structure Orderly (s : Process σ) : Prop where
  bounded : s.pipeline.queue.length ≤ s.pipeline.capacity
  stopped : ∀ worker ∈ s.stopped, s.pipeline.held worker = none ∧ s.pipeline.accepting = false ∧ s.pipeline.queue = []
  emptied : s.pipeline.workers = [] → s.pipeline.accepting = false ∧ s.pipeline.queue = []
  draining : s.draining = true → s.pipeline.workers ≠ []
  called : s.waiting ≠ 0 ∨ s.draining = true → s.pipeline.accepting = false
  returned : s.returned ≠ 0 → s.pipeline.workers = []

theorem start_orderly (store : σ) (workers capacity : Nat) : (start store workers capacity).Orderly where
  bounded := Nat.zero_le _
  stopped := nofun
  emptied := by
    intro hnone
    have hlength : max workers 1 = 0 := by simpa [start, Pipeline.start] using congrArg List.length hnone
    omega
  draining := nofun
  called h := h.elim (absurd rfl) nofun
  returned h := absurd rfl h

theorem Orderly.held_of_mayLeave (h : s.Orderly) (hmay : s.mayLeave) (worker : Nat) : s.pipeline.held worker = none := by
  cases hheld : s.pipeline.held worker with
  | none => rfl
  | some job => exact hheld ▸ (h.stopped worker (hmay.2 worker (Pipeline.held_lt hheld))).1

variable [Store σ]

def step (s : Process σ) : Step → Process σ
  | .submit job => { s with pipeline := ((Pipeline.submit job).run s.pipeline).state }
  | .take worker => { s with pipeline := Pipeline.take worker s.pipeline }
  | .finish worker =>
    { s with pipeline := ((Pipeline.finish worker : Action Empty (Pipeline σ) Unit).run s.pipeline).state }
  | .stop worker => if s.mayStop worker then { s with stopped := worker :: s.stopped } else s
  | .close => { s with pipeline.accepting := false, waiting := s.waiting + 1 }
  | .enter =>
    if s.waiting = 0 ∨ s.draining then s
    else if s.pipeline.workers = [] then { s with waiting := s.waiting - 1, returned := s.returned + 1 }
    else { s with waiting := s.waiting - 1, draining := true }
  | .leave =>
    if s.mayLeave then { s with pipeline.workers := [], draining := false, returned := s.returned + 1 } else s

theorem step_enter_of_nil (hwaiting : s.waiting ≠ 0) (hdraining : s.draining = false)
    (hworkers : s.pipeline.workers = []) :
    s.step .enter = { s with waiting := s.waiting - 1, returned := s.returned + 1 } := by
  rw [step, if_neg (by simp [hwaiting, hdraining]), if_pos hworkers]

theorem step_enter_of_ne_nil (hwaiting : s.waiting ≠ 0) (hdraining : s.draining = false)
    (hworkers : s.pipeline.workers ≠ []) : s.step .enter = { s with waiting := s.waiting - 1, draining := true } := by
  rw [step, if_neg (by simp [hwaiting, hdraining]), if_neg hworkers]

def after (s : Process σ) (steps : List Step) : Process σ := steps.foldl step s

theorem after_append (s : Process σ) (first rest : List Step) : s.after (first ++ rest) = (s.after first).after rest :=
  List.foldl_append

/-- What is noted along a run, if `log` says what is noted of a step. -/
def along (log : Process σ → Step → List β) : Process σ → List Step → List β
  | _, [] => []
  | s, step :: steps => log s step ++ along log (s.step step) steps

theorem along_append (log : Process σ → Step → List β) (s : Process σ) (first rest : List Step) :
    along log s (first ++ rest) = along log s first ++ along log (s.after first) rest := by
  induction first generalizing s with
  | nil => rfl
  | cons step first ih =>
    rw [List.cons_append, along, along, ih, List.append_assoc]
    rfl

theorem along_filterMap (f : β → Option γ) (log : Process σ → Step → List β) (s : Process σ) (steps : List Step) :
    (along log s steps).filterMap f = along (fun s step => (log s step).filterMap f) s steps := by
  induction steps generalizing s with
  | nil => rfl
  | cons step steps ih => rw [along, along, List.filterMap_append, ih]

theorem along_map (f : β → γ) (log : Process σ → Step → List β) (s : Process σ) (steps : List Step) :
    (along log s steps).map f = along (fun s step => (log s step).map f) s steps := by
  induction steps generalizing s with
  | nil => rfl
  | cons step steps ih => rw [along, along, List.map_append, ih]

/-- If each step gives out what is inside in order, and takes in what is new behind it, so does a run. -/
theorem along_balance {P : Process σ → Prop} {out into : Process σ → Step → List β} (inside : Process σ → List β)
    (hP : ∀ s step, P s → P (s.step step))
    (hstep : ∀ s step, P s → out s step ++ inside (s.step step) = inside s ++ into s step) (hs : P s)
    (steps : List Step) : along out s steps ++ inside (s.after steps) = inside s ++ along into s steps := by
  induction steps generalizing s with
  | nil => exact (List.append_nil _).symm
  | cons step steps ih =>
    calc along out s (step :: steps) ++ inside (s.after (step :: steps))
        = out s step ++ (along out (s.step step) steps ++ inside ((s.step step).after steps)) := List.append_assoc _ _ _
      _ = (out s step ++ inside (s.step step)) ++ along into (s.step step) steps := by
        rw [ih (hP s step hs), List.append_assoc]
      _ = inside s ++ along into s (step :: steps) := by rw [hstep s step hs, List.append_assoc, along]

def answers (s : Process σ) : Step → List (Except SubmitError Unit)
  | .submit job => [((Pipeline.submit job).run s.pipeline).outcome]
  | _ => []

def accepts (s : Process σ) : Step → List Job
  | .submit job =>
    match ((Pipeline.submit job).run s.pipeline).outcome with
    | .ok () => if job.ids = [] then [] else [job]
    | .error _ => []
  | _ => []

def takes (s : Process σ) : Step → List (Nat × Job)
  | .take worker => (s.pipeline.next worker).toList.map (Prod.mk worker)
  | _ => []

def hands (s : Process σ) : Step → List (Nat × Job)
  | .finish worker => (s.pipeline.held worker).toList.map (Prod.mk worker)
  | _ => []

def ofWorker (worker : Nat) (log : List (Nat × Job)) : List Job :=
  log.filterMap fun entry => if entry.1 = worker then some entry.2 else none

theorem ofWorker_append (worker : Nat) (first rest : List (Nat × Job)) :
    ofWorker worker (first ++ rest) = ofWorker worker first ++ ofWorker worker rest :=
  List.filterMap_append

theorem ofWorker_self (worker : Nat) (job : Job) : ofWorker worker [(worker, job)] = [job] := by
  simp [ofWorker]

theorem ofWorker_other {worker other : Nat} (hne : other ≠ worker) (job : Job) : ofWorker worker [(other, job)] = [] := by
  simp [ofWorker, hne]

theorem count_ofWorker (worker : Nat) (job : Job) (log : List (Nat × Job)) :
    (ofWorker worker log).count job = log.count (worker, job) := by
  induction log with
  | nil => rfl
  | cons entry log ih =>
    obtain ⟨other, job'⟩ := entry
    unfold ofWorker at ih ⊢
    by_cases h : other = worker
    · simp [h, List.count_cons, ih]
    · simp [h, ih]

/-- What a step accepts, takes and hands over, and what becomes of the process. -/
inductive Moves (s : Process σ) : Step → List Job → List (Nat × Job) → List (Nat × Job) → Process σ → Prop where
  | nothing (step : Step) (hstep : step ≠ .close) : Moves s step [] [] [] s
  | refused (job : Job) (hfull : s.pipeline.capacity ≤ s.pipeline.queue.length) (tally : Tally) :
      Moves s (.submit job) [] [] [] { s with pipeline.tally := tally }
  | accepted (job : Job) (hopen : s.pipeline.accepting = true)
      (hroom : s.pipeline.queue.length < s.pipeline.capacity) (tally : Tally) :
      Moves s (.submit job) [job] [] []
        { s with pipeline.queue := s.pipeline.queue ++ [job], pipeline.tally := tally }
  | taken (worker : Nat) (job : Job) (hidle : s.pipeline.workers[worker]? = some none)
      (hqueue : s.pipeline.queue = job :: s.pipeline.queue.tail) :
      Moves s (.take worker) [] [(worker, job)] []
        { s with
          pipeline.queue := s.pipeline.queue.tail
          pipeline.workers := s.pipeline.workers.set worker (some job) }
  | handed (worker : Nat) (job : Job) (hheld : s.pipeline.held worker = some job) (tally : Tally) :
      Moves s (.finish worker) [] [] [(worker, job)]
        { s with
          pipeline.store := ((Store.softDelete job.owner job.ids).run s.pipeline.store).state
          pipeline.workers := s.pipeline.workers.set worker none
          pipeline.tally := tally }
  | stopped (worker : Nat) (hmay : s.mayStop worker) :
      Moves s (.stop worker) [] [] [] { s with stopped := worker :: s.stopped }
  | closed : Moves s .close [] [] [] { s with pipeline.accepting := false, waiting := s.waiting + 1 }
  | passed (hwaiting : s.waiting ≠ 0) (hworkers : s.pipeline.workers = []) :
      Moves s .enter [] [] [] { s with waiting := s.waiting - 1, returned := s.returned + 1 }
  | entered (hwaiting : s.waiting ≠ 0) (hworkers : s.pipeline.workers ≠ []) :
      Moves s .enter [] [] [] { s with waiting := s.waiting - 1, draining := true }
  | left (hmay : s.mayLeave) :
      Moves s .leave [] [] [] { s with pipeline.workers := [], draining := false, returned := s.returned + 1 }

theorem moves (s : Process σ) (step : Step) : Moves s step (s.accepts step) (s.takes step) (s.hands step) (s.step step) := by
  cases step with
  | submit job =>
    have hsubmit := Pipeline.submit_cases job s.pipeline
    simp only [accepts, takes, hands, Process.step]
    generalize ((Pipeline.submit job).run s.pipeline).outcome = r at hsubmit ⊢
    generalize ((Pipeline.submit job).run s.pipeline).state = p' at hsubmit ⊢
    cases hsubmit with
    | dropped hids =>
      simp only [hids, if_true]
      exact .nothing (.submit job) nofun
    | closed => exact .nothing (.submit job) nofun
    | queued hids hopen hroom =>
      simp only [hids, if_false]
      exact .accepted job hopen hroom _
    | full _ _ hfull => exact .refused job hfull _
  | take worker =>
    simp only [accepts, takes, hands, Process.step]
    cases hnext : s.pipeline.next worker with
    | none =>
      rw [Pipeline.take_of_next_none hnext]
      exact .nothing (.take worker) nofun
    | some job =>
      rw [Pipeline.take_of_next_some hnext]
      obtain ⟨hidle, hqueue⟩ := Pipeline.next_eq_some hnext
      exact .taken worker job hidle hqueue
  | finish worker =>
    have hfinish := (Pipeline.finish_cases (ε := Empty) worker s.pipeline).2
    simp only [accepts, takes, hands, Process.step]
    generalize ((Pipeline.finish worker : Action Empty (Pipeline σ) Unit).run s.pipeline).state = p' at hfinish ⊢
    cases hfinish with
    | idle hidle =>
      rw [hidle]
      exact .nothing (.finish worker) nofun
    | applied job hheld =>
      rw [hheld]
      exact .handed worker job hheld _
  | stop worker =>
    simp only [accepts, takes, hands, Process.step]
    split
    · next hmay => exact .stopped worker hmay
    · exact .nothing (.stop worker) nofun
  | close => exact .closed
  | enter =>
    simp only [accepts, takes, hands, Process.step]
    split
    · exact .nothing .enter nofun
    · next hturn =>
      have hwaiting : s.waiting ≠ 0 := fun h => hturn (.inl h)
      split
      · next hworkers => exact .passed hwaiting hworkers
      · next hworkers => exact .entered hwaiting hworkers
  | leave =>
    simp only [accepts, takes, hands, Process.step]
    split
    · next hmay => exact .left hmay
    · exact .nothing .leave nofun

namespace Moves

variable {s' : Process σ} {step : Step} {accepted : List Job} {taken handed : List (Nat × Job)}

theorem capacity (h : Moves s step accepted taken handed s') : s'.pipeline.capacity = s.pipeline.capacity := by
  cases h <;> rfl

theorem accepting (h : Moves s step accepted taken handed s') :
    s'.pipeline.accepting = true ↔ s.pipeline.accepting = true ∧ step ≠ .close := by
  cases h with
  | nothing step hstep => simp [hstep]
  | closed => simp
  | _ => simp

theorem bounded (h : Moves s step accepted taken handed s') (hs : s.pipeline.queue.length ≤ s.pipeline.capacity) :
    s'.pipeline.queue.length ≤ s'.pipeline.capacity := by
  cases h with
  | accepted job hopen hroom tally =>
    show (s.pipeline.queue ++ [job]).length ≤ s.pipeline.capacity
    rw [List.length_append]
    exact hroom
  | taken worker job hidle hqueue =>
    rw [hqueue, List.length_cons] at hs
    exact Nat.le_of_succ_le hs
  | _ => exact hs

theorem queue (h : Moves s step accepted taken handed s') :
    taken.map Prod.snd ++ s'.pipeline.queue = s.pipeline.queue ++ accepted := by
  cases h with
  | accepted => rfl
  | taken worker job hidle hqueue =>
    rw [List.append_nil, hqueue]
    rfl
  | _ => exact (List.append_nil _).symm

end Moves

namespace Moves

variable {s' : Process σ} {step : Step} {accepted : List Job} {taken handed : List (Nat × Job)}

theorem orderly (h : Moves s step accepted taken handed s') (hs : s.Orderly) : s'.Orderly := by
  have hbounded := h.bounded hs.bounded
  cases h with
  | nothing => exact hs
  | refused => exact ⟨hbounded, hs.stopped, hs.emptied, hs.draining, hs.called, hs.returned⟩
  | accepted job hopen hroom tally =>
    have hclosed : s.pipeline.accepting ≠ false := by simp [hopen]
    exact ⟨hbounded, fun worker hstopped => absurd (hs.stopped worker hstopped).2.1 hclosed,
      fun hworkers => absurd (hs.emptied hworkers).1 hclosed, hs.draining, hs.called, hs.returned⟩
  | taken worker job hidle hqueue =>
    have hjobs : s.pipeline.queue ≠ [] := hqueue ▸ List.cons_ne_nil _ _
    have hset : s.pipeline.workers.set worker (some job) = [] ↔ s.pipeline.workers = [] := List.set_eq_nil_iff worker _
    exact ⟨hbounded, fun other hstopped => absurd (hs.stopped other hstopped).2.2 hjobs,
      fun hworkers => absurd (hs.emptied (hset.mp hworkers)).2 hjobs,
      fun hdraining hworkers => hs.draining hdraining (hset.mp hworkers), hs.called,
      fun hreturned => hset.mpr (hs.returned hreturned)⟩
  | handed worker job hheld tally =>
    have hset : s.pipeline.workers.set worker none = [] ↔ s.pipeline.workers = [] := List.set_eq_nil_iff worker _
    refine ⟨hbounded, fun other hstopped => ⟨?_, (hs.stopped other hstopped).2⟩,
      fun hworkers => hs.emptied (hset.mp hworkers),
      fun hdraining hworkers => hs.draining hdraining (hset.mp hworkers), hs.called,
      fun hreturned => hset.mpr (hs.returned hreturned)⟩
    show ({ s.pipeline with workers := s.pipeline.workers.set worker none } : Pipeline σ).held other = none
    rw [Pipeline.held_set]
    split
    · rfl
    · exact (hs.stopped other hstopped).1
  | stopped worker hmay =>
    refine ⟨hbounded, fun other hstopped => ?_, hs.emptied, hs.draining, hs.called, hs.returned⟩
    rcases List.mem_cons.mp hstopped with rfl | hstopped
    · exact ⟨Pipeline.held_of_idle hmay.1, hmay.2⟩
    · exact hs.stopped other hstopped
  | closed =>
    exact ⟨hbounded, fun worker hstopped => ⟨(hs.stopped worker hstopped).1, rfl, (hs.stopped worker hstopped).2.2⟩,
      fun hworkers => ⟨rfl, (hs.emptied hworkers).2⟩, hs.draining, fun _ => rfl, hs.returned⟩
  | passed hwaiting hworkers =>
    exact ⟨hbounded, hs.stopped, hs.emptied, hs.draining, fun _ => hs.called (.inl hwaiting), fun _ => hworkers⟩
  | entered hwaiting hworkers =>
    exact ⟨hbounded, hs.stopped, hs.emptied, fun _ => hworkers, fun _ => hs.called (.inl hwaiting), hs.returned⟩
  | left hmay =>
    have hfirst : 0 ∈ s.stopped := hmay.2 0 (List.length_pos_iff.mpr (hs.draining hmay.1))
    exact ⟨hbounded, fun worker hstopped => ⟨rfl, (hs.stopped worker hstopped).2⟩,
      fun _ => (hs.stopped 0 hfirst).2, nofun, fun _ => (hs.stopped 0 hfirst).2.1, fun _ => rfl⟩

theorem worker (h : Moves s step accepted taken handed s') (hs : s.Orderly) (worker : Nat) :
    ofWorker worker handed ++ (s'.pipeline.held worker).toList =
      (s.pipeline.held worker).toList ++ ofWorker worker taken := by
  cases h with
  | taken other job hidle hqueue =>
    show (({ s.pipeline with workers := s.pipeline.workers.set other (some job) } : Pipeline σ).held worker).toList = _
    rw [Pipeline.held_set]
    by_cases heq : other = worker
    · subst heq
      rw [if_pos ⟨rfl, (List.getElem?_eq_some_iff.mp hidle).1⟩, Pipeline.held_of_idle hidle, ofWorker_self]
      rfl
    · rw [if_neg fun h => heq h.1, ofWorker_other heq, List.append_nil]
  | handed other job hheld tally =>
    show _ ++ (({ s.pipeline with workers := s.pipeline.workers.set other none } : Pipeline σ).held worker).toList = _
    rw [Pipeline.held_set]
    by_cases heq : other = worker
    · subst heq
      rw [if_pos ⟨rfl, Pipeline.held_lt hheld⟩, hheld, ofWorker_self]
      rfl
    · rw [if_neg fun h => heq h.1, ofWorker_other heq]
      exact (List.append_nil _).symm
  | left hmay =>
    rw [hs.held_of_mayLeave hmay]
    rfl
  | _ => exact (List.append_nil _).symm

end Moves

theorem step_orderly (s : Process σ) (step : Step) (hs : s.Orderly) : (s.step step).Orderly :=
  (s.moves step).orderly hs

theorem after_orderly (hs : s.Orderly) (steps : List Step) : (s.after steps).Orderly := by
  induction steps generalizing s with
  | nil => exact hs
  | cons step steps ih => exact ih (s.step_orderly step hs)

theorem after_capacity (s : Process σ) (steps : List Step) :
    (s.after steps).pipeline.capacity = s.pipeline.capacity := by
  induction steps generalizing s with
  | nil => rfl
  | cons step steps ih => exact (ih (s.step step)).trans (s.moves step).capacity

theorem after_accepting (s : Process σ) (steps : List Step) :
    (s.after steps).pipeline.accepting = true ↔ s.pipeline.accepting = true ∧ .close ∉ steps := by
  induction steps generalizing s with
  | nil => simp [after]
  | cons step steps ih =>
    calc ((s.step step).after steps).pipeline.accepting = true
        ↔ (s.step step).pipeline.accepting = true ∧ .close ∉ steps := ih (s.step step)
      _ ↔ (s.pipeline.accepting = true ∧ step ≠ .close) ∧ .close ∉ steps := by rw [(s.moves step).accepting]
      _ ↔ s.pipeline.accepting = true ∧ .close ∉ step :: steps := by
        rw [List.mem_cons, not_or, and_assoc, ne_comm]

theorem along_queue (s : Process σ) (steps : List Step) :
    (along takes s steps).map Prod.snd ++ (s.after steps).pipeline.queue =
      s.pipeline.queue ++ along accepts s steps := by
  rw [along_map]
  exact along_balance (P := fun _ => True) (fun s => s.pipeline.queue) (fun _ _ _ => trivial)
    (fun s step _ => (s.moves step).queue) trivial steps

theorem along_worker (hs : s.Orderly) (worker : Nat) (steps : List Step) :
    ofWorker worker (along hands s steps) ++ ((s.after steps).pipeline.held worker).toList =
      (s.pipeline.held worker).toList ++ ofWorker worker (along takes s steps) := by
  rw [ofWorker, ofWorker, along_filterMap, along_filterMap]
  exact along_balance (fun s => (s.pipeline.held worker).toList) step_orderly
    (fun s step hs => (s.moves step).worker hs worker) hs steps

end Process
end ShortLinks.Deletion
