import ShortLinks.Proofs.Deletion.Shutdown
import ShortLinks.Store.Scripted

/-!
# Accepted jobs are delivered

Whatever callers, workers and the store do, a job that was accepted is in one place: queued, held by one worker, or
handed to the store. A job that was refused is never seen again, and what the store answers makes no difference to
what happens to any job.
-/

set_option autoImplicit false

namespace ShortLinks.Deletion.Process

variable {σ τ β : Type} {s : Process σ} {t : Process τ}

/-- Two processes, over any two stores, that differ in nothing but the store and what was counted. -/
structure Matches (s : Process σ) (t : Process τ) : Prop where
  pipeline : Pipeline.Resembles id s.pipeline t.pipeline
  stopped : s.stopped = t.stopped
  waiting : s.waiting = t.waiting
  draining : s.draining = t.draining
  returned : s.returned = t.returned

theorem start_matches (store : σ) (other : τ) (workers capacity : Nat) :
    Matches (start store workers capacity) (start other workers capacity) :=
  ⟨⟨rfl, rfl, rfl, rfl⟩, rfl, rfl, rfl, rfl⟩

namespace Matches

theorem queue (h : Matches s t) : s.pipeline.queue = t.pipeline.queue := by
  simpa using h.pipeline.queue

theorem workers (h : Matches s t) : s.pipeline.workers = t.pipeline.workers := by
  simpa using h.pipeline.workers

theorem mayStop_iff (h : Matches s t) (worker : Nat) : s.mayStop worker ↔ t.mayStop worker := by
  rw [mayStop, mayStop, h.queue, h.workers, h.pipeline.accepting]

theorem mayLeave_iff (h : Matches s t) : s.mayLeave ↔ t.mayLeave := by
  rw [mayLeave, mayLeave, h.workers, h.stopped, h.draining]

theorem answers (h : Matches s t) (step : Step) : s.answers step = t.answers step := by
  cases step with
  | submit job => exact congrArg (fun r => [r]) (Pipeline.mirrors_submit rfl Iff.rfl h.pipeline).1
  | _ => rfl

theorem accepts (h : Matches s t) (step : Step) : s.accepts step = t.accepts step := by
  cases step with
  | submit job =>
    have hanswer : ((Pipeline.submit job).run s.pipeline).outcome = ((Pipeline.submit job).run t.pipeline).outcome :=
      (Pipeline.mirrors_submit rfl Iff.rfl h.pipeline).1
    simp only [Process.accepts, hanswer]
  | _ => rfl

theorem takes (h : Matches s t) (step : Step) : s.takes step = t.takes step := by
  cases step with
  | take worker => simp only [Process.takes, Pipeline.next, h.queue, h.workers]
  | _ => rfl

theorem hands (h : Matches s t) (step : Step) : s.hands step = t.hands step := by
  cases step with
  | finish worker => simp only [Process.hands, Pipeline.held, h.workers]
  | _ => rfl

variable [Store σ] [Store τ]

theorem step (h : Matches s t) (step : Step) : Matches (s.step step) (t.step step) := by
  obtain ⟨hp, hstopped, hwaiting, hdraining, hreturned⟩ := h
  cases step with
  | submit job => exact ⟨(Pipeline.mirrors_submit rfl Iff.rfl hp).2, hstopped, hwaiting, hdraining, hreturned⟩
  | take worker => exact ⟨Pipeline.resembles_take hp worker, hstopped, hwaiting, hdraining, hreturned⟩
  | finish worker => exact ⟨(Pipeline.mirrors_finish id worker hp).2, hstopped, hwaiting, hdraining, hreturned⟩
  | stop worker =>
    have hmay := mayStop_iff ⟨hp, hstopped, hwaiting, hdraining, hreturned⟩ worker
    by_cases hs : s.mayStop worker
    · rw [Process.step, Process.step, if_pos hs, if_pos (hmay.mp hs)]
      exact ⟨hp, congrArg _ hstopped, hwaiting, hdraining, hreturned⟩
    · rw [Process.step, Process.step, if_neg hs, if_neg fun ht => hs (hmay.mpr ht)]
      exact ⟨hp, hstopped, hwaiting, hdraining, hreturned⟩
  | close => exact ⟨⟨hp.capacity, hp.queue, hp.workers, rfl⟩, hstopped, congrArg _ hwaiting, hdraining, hreturned⟩
  | enter =>
    have hworkers := workers ⟨hp, hstopped, hwaiting, hdraining, hreturned⟩
    simp only [Process.step, hwaiting, hdraining, hworkers]
    split
    · exact ⟨hp, hstopped, hwaiting, hdraining, hreturned⟩
    · split
      · exact ⟨hp, hstopped, rfl, rfl, congrArg _ hreturned⟩
      · exact ⟨hp, hstopped, rfl, rfl, hreturned⟩
  | leave =>
    have hmay := mayLeave_iff ⟨hp, hstopped, hwaiting, hdraining, hreturned⟩
    by_cases hs : s.mayLeave
    · rw [Process.step, Process.step, if_pos hs, if_pos (hmay.mp hs)]
      exact ⟨⟨hp.capacity, hp.queue, rfl, hp.accepting⟩, hstopped, hwaiting, rfl, congrArg _ hreturned⟩
    · rw [Process.step, Process.step, if_neg hs, if_neg fun ht => hs (hmay.mpr ht)]
      exact ⟨hp, hstopped, hwaiting, hdraining, hreturned⟩

theorem along {log : Process σ → Step → List β} {log' : Process τ → Step → List β}
    (hlog : ∀ s t, Matches s t → log s = log' t) (h : Matches s t) (steps : List Step) :
    along log s steps = along log' t steps := by
  induction steps generalizing s t with
  | nil => rfl
  | cons step steps ih => rw [Process.along, Process.along, hlog s t h, ih (h.step step)]

end Matches

theorem refused_matches [Store σ] (s : Process σ) {job : Job} {e : SubmitError}
    (hanswer : s.answers (.submit job) = [.error e]) : Matches (s.step (.submit job)) s := by
  have hrefused := List.singleton_inj.mp hanswer
  have hsubmit := Pipeline.submit_cases job s.pipeline
  rw [hrefused] at hsubmit
  rw [Process.step]
  generalize ((Pipeline.submit job).run s.pipeline).state = p' at hsubmit
  cases hsubmit <;> exact ⟨⟨rfl, rfl, rfl, rfl⟩, rfl, rfl, rfl, rfl⟩

/-- A job that was refused is as one that was never submitted. -/
theorem along_refused [Store σ] {log : Process σ → Step → List β}
    (hlog : ∀ s t : Process σ, Matches s t → log s = log t) {job : Job} {before : List Step} {e : SubmitError}
    (hanswer : (s.after before).answers (.submit job) = [.error e])
    (hquiet : log (s.after before) (.submit job) = []) (rest : List Step) :
    along log s (before ++ .submit job :: rest) = along log s (before ++ rest) := by
  rw [along_append, along_append, along, hquiet, List.nil_append]
  exact congrArg _ (Matches.along hlog (refused_matches _ hanswer) rest)

def holdings (p : Pipeline σ) : List (Nat × Job) :=
  (List.range p.workers.length).flatMap fun worker => (p.held worker).toList.map (Prod.mk worker)

theorem ofWorker_holdings (p : Pipeline σ) (worker : Nat) : ofWorker worker (holdings p) = (p.held worker).toList := by
  have hother : ∀ other, ofWorker worker ((p.held other).toList.map (Prod.mk other)) =
      if other = worker then (p.held worker).toList else [] := by
    intro other
    split
    · next heq =>
      subst heq
      cases p.held other with
      | none => rfl
      | some job => exact ofWorker_self other job
    · next hne =>
      cases p.held other with
      | none => rfl
      | some job => exact ofWorker_other hne job
  have hrange : ∀ n, ofWorker worker ((List.range n).flatMap fun other => (p.held other).toList.map (Prod.mk other)) =
      if worker < n then (p.held worker).toList else [] := by
    intro n
    induction n with
    | zero => rfl
    | succ n ih =>
      rw [List.range_succ, List.flatMap_append, List.flatMap_singleton, ofWorker_append, ih, hother]
      rcases Nat.lt_trichotomy worker n with hlt | rfl | hgt
      · rw [if_pos hlt, if_neg (Nat.ne_of_gt hlt), if_pos (Nat.lt_succ_of_lt hlt), List.append_nil]
      · rw [if_neg (Nat.lt_irrefl _), if_pos rfl, if_pos (Nat.lt_succ_self _), List.nil_append]
      · rw [if_neg (Nat.not_lt_of_gt hgt), if_neg (Nat.ne_of_lt hgt), if_neg (Nat.not_lt.mpr hgt), List.nil_append]
  rw [holdings, hrange]
  split
  · rfl
  · next hout =>
    rw [Pipeline.held, List.getElem?_eq_none (Nat.le_of_not_lt hout)]
    rfl

section Run

variable [Store σ]

theorem perm_holdings (hs : s.Orderly) (hidle : Idle s.pipeline) (steps : List Step) :
    (along takes s steps).Perm (along hands s steps ++ holdings (s.after steps).pipeline) := by
  refine List.perm_iff_count.mpr fun entry => ?_
  obtain ⟨worker, job⟩ := entry
  have hworker := along_worker hs worker steps
  rw [hidle worker] at hworker
  calc (along takes s steps).count (worker, job)
      = (ofWorker worker (along takes s steps)).count job := (count_ofWorker worker job _).symm
    _ = (ofWorker worker (along hands s steps) ++ ((s.after steps).pipeline.held worker).toList).count job := by
      rw [hworker]
      rfl
    _ = (ofWorker worker (along hands s steps ++ holdings (s.after steps).pipeline)).count job := by
      rw [ofWorker_append, ofWorker_holdings]
    _ = (along hands s steps ++ holdings (s.after steps).pipeline).count (worker, job) := count_ofWorker worker job _

theorem perm_accepts (hs : s.Orderly) (hidle : Idle s.pipeline) (hqueue : s.pipeline.queue = []) (steps : List Step) :
    (along accepts s steps).Perm ((along hands s steps).map Prod.snd ++
      ((holdings (s.after steps).pipeline).map Prod.snd ++ (s.after steps).pipeline.queue)) := by
  have hfifo := along_queue s steps
  rw [hqueue, List.nil_append] at hfifo
  rw [← hfifo, ← List.append_assoc, ← List.map_append]
  exact ((perm_holdings hs hidle steps).map Prod.snd).append_right _

end Run

theorem answer_calls [Store σ] {α : Type} (part : Script → List (Prepared α))
    (replace : List (Prepared α) → Script → Script) (call : Call) (own : String) (real : Action StoreError σ α)
    (store : ScriptedStore σ) :
    ((ScriptedStore.answer part replace call own real).run store).state.calls = store.calls ++ [call] := by
  show (ScriptedStore.carryOut ((part store.script).headD .pass) own real
    { store with
      script := replace (part store.script).tail store.script
      calls := store.calls ++ [call] }).state.calls = _
  cases (part store.script).headD .pass <;> rfl

theorem softDelete_calls [Store σ] (store : ScriptedStore σ) (owner : String) (ids : List String) :
    ((Store.softDelete owner ids).run store).state.calls = store.calls ++ [.softDelete owner ids] :=
  answer_calls Script.softDelete (fun softDelete s => { s with softDelete }) (.softDelete owner ids) ""
    (Store.softDelete owner ids) store

theorem Moves.calls [Store σ] {s s' : Process (ScriptedStore σ)} {step : Step} {accepted : List Job}
    {taken handed : List (Nat × Job)} (h : Moves s step accepted taken handed s') :
    s'.pipeline.store.calls = s.pipeline.store.calls ++
      handed.map fun entry => .softDelete entry.2.owner entry.2.ids := by
  cases h with
  | handed worker job hheld tally => exact softDelete_calls s.pipeline.store job.owner job.ids
  | _ => exact (List.append_nil _).symm

theorem after_calls [Store σ] (s : Process (ScriptedStore σ)) (steps : List Step) :
    (s.after steps).pipeline.store.calls = s.pipeline.store.calls ++
      (along hands s steps).map fun entry => .softDelete entry.2.owner entry.2.ids := by
  induction steps generalizing s with
  | nil => exact (List.append_nil _).symm
  | cons step steps ih =>
    calc ((s.step step).after steps).pipeline.store.calls
        = (s.step step).pipeline.store.calls ++ _ := ih (s.step step)
      _ = s.pipeline.store.calls ++ (along hands s (step :: steps)).map _ := by
        rw [(s.moves step).calls, List.append_assoc, along, List.map_append]

/-- What callers and operators may rely on, in every run that goes on from here. The store is one that notes its
calls, and may answer anything. -/
structure Delivers [Store σ] (s : Process (ScriptedStore σ)) : Prop where
  bounded : ∀ steps, (s.after steps).pipeline.queue.length ≤ s.pipeline.capacity
  /-- A job is accepted as long as no shutdown was called for and there is room. -/
  accepted_iff : ∀ steps job, job.ids ≠ [] → ((s.after steps).answers (.submit job) = [.ok ()] ↔
    .close ∉ steps ∧ (s.after steps).pipeline.queue.length < s.pipeline.capacity)
  full_iff : ∀ steps job, job.ids ≠ [] → ((s.after steps).answers (.submit job) = [.error .queueFull] ↔
    .close ∉ steps ∧ (s.after steps).pipeline.queue.length = s.pipeline.capacity)
  closed_iff : ∀ steps job, job.ids ≠ [] → ((s.after steps).answers (.submit job) = [.error .shuttingDown] ↔
    .close ∈ steps)
  entered : ∀ steps job, job.ids ≠ [] →
    ((s.after steps).accepts (.submit job) = [job] ↔ (s.after steps).answers (.submit job) = [.ok ()])
  /-- With a job that was refused, the same jobs are accepted, taken and handed over as without it. -/
  refused : ∀ before job rest e, (s.after before).answers (.submit job) = [.error e] →
    along accepts s (before ++ .submit job :: rest) = along accepts s (before ++ rest) ∧
    along takes s (before ++ .submit job :: rest) = along takes s (before ++ rest) ∧
    along hands s (before ++ .submit job :: rest) = along hands s (before ++ rest)
  /-- The accepted jobs are those taken and then those queued, in their order. -/
  fifo : ∀ steps, along accepts s steps = (along takes s steps).map Prod.snd ++ (s.after steps).pipeline.queue
  /-- The jobs that a worker has taken are those that it has handed over and then the one that it holds. -/
  worker : ∀ steps worker, ofWorker worker (along takes s steps) =
    ofWorker worker (along hands s steps) ++ ((s.after steps).pipeline.held worker).toList
  /-- No accepted job is lost, and none is in two places. -/
  conserved : ∀ steps, (along accepts s steps).Perm ((along hands s steps).map Prod.snd ++
    ((holdings (s.after steps).pipeline).map Prod.snd ++ (s.after steps).pipeline.queue))
  calls : ∀ steps, (s.after steps).pipeline.store.calls = s.pipeline.store.calls ++
    (along hands s steps).map fun entry => .softDelete entry.2.owner entry.2.ids
  /-- Over any other store, whatever it answers, submitters are answered alike and the same jobs are accepted, taken
  and handed over. -/
  unaffected : ∀ (τ : Type) [Store τ] (t : Process τ), Matches s t → ∀ steps,
    along answers s steps = along answers t steps ∧ along accepts s steps = along accepts t steps ∧
    along takes s steps = along takes t steps ∧ along hands s steps = along hands t steps
  idle : ∀ steps worker, (s.after (steps ++ [.finish worker])).pipeline.held worker = none
  stopped : ∀ steps, ∀ worker ∈ (s.after steps).stopped, .close ∈ steps ∧
    (s.after steps).pipeline.queue = [] ∧ (s.after steps).pipeline.held worker = none
  /-- When a call for a shutdown has returned, the first or a later one, every accepted job has been handed over. -/
  drained : ∀ steps, (s.after steps).returned ≠ 0 →
    (along accepts s steps).Perm ((along hands s steps).map Prod.snd)
  returns : ∀ steps, (s.after steps).CanReturn
  /-- A shutdown that is carried out in one piece is one way in which its steps can come. -/
  shutdown : ∀ steps, (s.after steps).waiting = 0 → (s.after steps).draining = false → ∃ more, .close ∈ more ∧
    (s.after (steps ++ more)).returned = (s.after steps).returned + 1 ∧
    ∀ ε, (Pipeline.shutdown : Action ε (Pipeline (ScriptedStore σ)) Unit).Ends (s.after steps).pipeline (.ok ())
      (s.after (steps ++ more)).pipeline

theorem start_idle (store : σ) (workers capacity : Nat) : Idle (start store workers capacity).pipeline := by
  intro worker
  show (List.replicate (max workers 1) none)[worker]?.join = none
  rw [List.getElem?_replicate]
  split <;> rfl

/-- Where nothing is held or queued and intake is open, all that is accepted from then on is delivered. -/
theorem delivers [Store σ] {s : Process (ScriptedStore σ)} (hs : s.Orderly) (hidle : Idle s.pipeline)
    (hqueue : s.pipeline.queue = []) (hopen : s.pipeline.accepting = true) : s.Delivers := by
  have haccepting : ∀ steps, (s.after steps).pipeline.accepting = true ↔ .close ∉ steps := by
    intro steps
    rw [after_accepting, hopen]
    exact and_iff_right rfl
  have hclosed : ∀ steps, (s.after steps).pipeline.accepting = false ↔ .close ∈ steps := by
    intro steps
    rw [← Bool.not_eq_true, haccepting, Decidable.not_not]
  have hbounded : ∀ steps, (s.after steps).pipeline.queue.length ≤ s.pipeline.capacity := by
    intro steps
    rw [← after_capacity s steps]
    exact (after_orderly hs steps).bounded
  have hfifo : ∀ steps, along accepts s steps =
      (along takes s steps).map Prod.snd ++ (s.after steps).pipeline.queue := by
    intro steps
    rw [along_queue, hqueue, List.nil_append]
  exact {
    bounded := hbounded
    accepted_iff := fun steps job hids => by
      rw [answers, List.singleton_inj, (Pipeline.submit_outcome _ hids).1, haccepting, after_capacity]
    full_iff := fun steps job hids => by
      rw [answers, List.singleton_inj, (Pipeline.submit_outcome _ hids).2.1, haccepting, after_capacity]
      exact and_congr_right fun _ =>
        ⟨fun hfull => Nat.le_antisymm (hbounded steps) hfull, fun hfull => Nat.le_of_eq hfull.symm⟩
    closed_iff := fun steps job hids => by
      rw [answers, List.singleton_inj, (Pipeline.submit_outcome _ hids).2.2, hclosed]
    entered := fun steps job hids => by
      simp only [accepts, answers, List.singleton_inj]
      cases ((Pipeline.submit job).run (s.after steps).pipeline).outcome with
      | ok x => simp [hids]
      | error e => simp
    refused := fun before job rest e hanswer => by
      have haccepts : (s.after before).accepts (.submit job) = [] := by
        rw [accepts, List.singleton_inj.mp hanswer]
      exact ⟨along_refused (fun _ _ h => funext h.accepts) hanswer haccepts rest,
        along_refused (fun _ _ h => funext h.takes) hanswer rfl rest,
        along_refused (fun _ _ h => funext h.hands) hanswer rfl rest⟩
    fifo := hfifo
    worker := fun steps worker => by
      rw [along_worker hs, hidle]
      rfl
    conserved := perm_accepts hs hidle hqueue
    calls := after_calls s
    unaffected := fun τ _ t hmatches steps =>
      ⟨Matches.along (fun _ _ h => funext h.answers) hmatches steps,
        Matches.along (fun _ _ h => funext h.accepts) hmatches steps,
        Matches.along (fun _ _ h => funext h.takes) hmatches steps,
        Matches.along (fun _ _ h => funext h.hands) hmatches steps⟩
    idle := fun steps worker => by
      rw [after_append]
      exact (step_finish_idles (s.after steps) worker).idle
    stopped := fun steps worker hstopped => by
      obtain ⟨hheld, hshut, hnone⟩ := (after_orderly hs steps).stopped worker hstopped
      exact ⟨(hclosed steps).mp hshut, hnone, hheld⟩
    drained := fun steps hreturned => by
      have horderly := after_orderly hs steps
      have hworkers := horderly.returned hreturned
      have hconserved := perm_accepts hs hidle hqueue steps
      rw [holdings, hworkers, (horderly.emptied hworkers).2] at hconserved
      simpa using hconserved
    returns := fun steps => (after_orderly hs steps).canReturn
    shutdown := fun steps hwaiting hdraining => by
      obtain ⟨hends, -, -, hreturned⟩ := shutdown_ends hwaiting hdraining
      refine ⟨(s.after steps).shutdownSteps, List.mem_cons_self, ?_⟩
      rw [after_append]
      exact ⟨hreturned, hends⟩ }

/-- A pipeline that is started has at least one worker and room for at least one job, and delivers what it accepts. It
matches one that is started over any other store. -/
theorem start_delivers [Store σ] (store : ScriptedStore σ) (workers capacity : Nat) :
    (start store workers capacity).pipeline.capacity = max capacity 1 ∧
    (start store workers capacity).pipeline.workers = List.replicate (max workers 1) none ∧
    (start store workers capacity).pipeline.store = store ∧
    (∀ (τ : Type) (other : τ), Matches (start store workers capacity) (start other workers capacity)) ∧
    (start store workers capacity).Delivers :=
  ⟨rfl, rfl, rfl, fun _ other => start_matches store other workers capacity,
    delivers (start_orderly store workers capacity) (start_idle store workers capacity) rfl rfl⟩

end ShortLinks.Deletion.Process
