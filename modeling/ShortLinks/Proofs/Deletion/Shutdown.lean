import ShortLinks.Proofs.Deletion.Process

/-!
# Shutting down

A shutdown that is carried out in one piece is one of the ways in which its steps can come. Whatever has happened
before, there is a way for all calls that wait to return, and it takes nothing but steps of the workers and of the
calls themselves.
-/

set_option autoImplicit false

namespace ShortLinks.Deletion.Process

variable {σ : Type} [Store σ] {s : Process σ}

/-- Steps that are not taken by callers of the pipeline. -/
def Inner : Step → Prop
  | .submit _ | .close => False
  | _ => True

def Idle (p : Pipeline σ) : Prop := ∀ worker, p.held worker = none

omit [Store σ] in
theorem Idle.getElem? {p : Pipeline σ} (h : Idle p) {worker : Nat} (hlt : worker < p.workers.length) :
    p.workers[worker]? = some none := by
  have hheld := h worker
  rw [Pipeline.held, List.getElem?_eq_getElem hlt, Option.join_some] at hheld
  rw [List.getElem?_eq_getElem hlt, hheld]

theorem finish_ends (ε : Type) (s : Process σ) (worker : Nat) :
    (Pipeline.finish worker : Action ε (Pipeline σ) Unit).Ends s.pipeline (.ok ()) (s.step (.finish worker)).pipeline := by
  obtain ⟨hok, hfinish⟩ := Pipeline.finish_cases (ε := ε) worker s.pipeline
  exact ⟨hok, hfinish.unique (Pipeline.finish_cases worker s.pipeline).2⟩

theorem step_finish_idles (s : Process σ) (worker : Nat) :
    Pipeline.Idles worker s.pipeline (s.step (.finish worker)).pipeline :=
  (Pipeline.finish_cases worker s.pipeline).2.idles

def finishSteps (n : Nat) : List Step := (List.range n).map .finish

theorem finishSteps_succ (s : Process σ) (n : Nat) :
    s.after (finishSteps (n + 1)) = (s.after (finishSteps n)).step (.finish n) := by
  rw [finishSteps, List.range_succ, List.map_append, after_append]
  rfl

theorem after_finishSteps (s : Process σ) (n : Nat) : ∃ p, s.after (finishSteps n) = { s with pipeline := p } ∧
    (∀ ε, (Pipeline.finishAll n : Action ε (Pipeline σ) Unit).Ends s.pipeline (.ok ()) p) ∧
    (∀ worker < n, p.held worker = none) ∧ p.queue = s.pipeline.queue ∧
    p.workers.length = s.pipeline.workers.length ∧ p.accepting = s.pipeline.accepting := by
  induction n with
  | zero => exact ⟨s.pipeline, rfl, fun _ => ⟨rfl, rfl⟩, nofun, rfl, rfl, rfl⟩
  | succ n ih =>
    obtain ⟨p, hafter, hends, hidle, hqueue, hworkers, haccepting⟩ := ih
    have hidles := step_finish_idles { s with pipeline := p } n
    refine ⟨(step { s with pipeline := p } (.finish n)).pipeline, ?_, fun ε => ?_, fun worker hlt => ?_,
      hidles.queue.trans hqueue, hidles.workers.trans hworkers, hidles.accepting.trans haccepting⟩
    · rw [finishSteps_succ, hafter]
      rfl
    · exact (hends ε).bind (finish_ends ε { s with pipeline := p } n)
    · rcases Nat.lt_succ_iff_lt_or_eq.mp hlt with hlt | rfl
      · exact hidles.others worker (hidle worker hlt)
      · exact hidles.idle

def workSteps : Nat → List Step
  | 0 => []
  | n + 1 => .take 0 :: .finish 0 :: workSteps n

theorem after_work (hidle : Idle s.pipeline) (hworkers : s.pipeline.workers ≠ []) :
    ∃ p, s.after [.take 0, .finish 0] = { s with pipeline := p } ∧
      (∀ ε, (Pipeline.work 0 : Action ε (Pipeline σ) Unit).Ends s.pipeline (.ok ()) p) ∧
      Idle p ∧ p.queue = s.pipeline.queue.tail ∧
      p.workers.length = s.pipeline.workers.length ∧ p.accepting = s.pipeline.accepting := by
  have hidles := step_finish_idles (s.step (.take 0)) 0
  have hfirst := hidle.getElem? (List.length_pos_iff.mpr hworkers)
  have htake : (∀ other, other ≠ 0 → (Pipeline.take 0 s.pipeline).held other = none) ∧
      (Pipeline.take 0 s.pipeline).queue = s.pipeline.queue.tail ∧
      (Pipeline.take 0 s.pipeline).workers.length = s.pipeline.workers.length ∧
      (Pipeline.take 0 s.pipeline).accepting = s.pipeline.accepting := by
    cases hqueue : s.pipeline.queue with
    | nil =>
      rw [Pipeline.take_of_next_none (by simp [Pipeline.next, hqueue])]
      exact ⟨fun other _ => hidle other, hqueue, rfl, rfl⟩
    | cons job rest =>
      have hnext : s.pipeline.next 0 = some job := by simp [Pipeline.next, hfirst, hqueue]
      rw [Pipeline.take_of_next_some hnext, hqueue]
      refine ⟨fun other hne => ?_, rfl, List.length_set, rfl⟩
      refine (Pipeline.held_set { s.pipeline with queue := rest } 0 other (some job)).trans ?_
      rw [if_neg fun h => hne h.1.symm]
      exact hidle other
  obtain ⟨hothers, hqueue, hlength, haccepting⟩ := htake
  refine ⟨((s.step (.take 0)).step (.finish 0)).pipeline, rfl, fun ε => ?_, fun worker => ?_,
    hidles.queue.trans hqueue, hidles.workers.trans hlength, hidles.accepting.trans haccepting⟩
  · exact (Action.ends_modify.mpr ⟨rfl, rfl⟩).bind (finish_ends ε (s.step (.take 0)) 0)
  · by_cases h : worker = 0
    · exact h ▸ hidles.idle
    · exact hidles.others worker (hothers worker h)

theorem after_workSteps (n : Nat) (hidle : Idle s.pipeline) (hworkers : s.pipeline.workers ≠ []) :
    ∃ p, s.after (workSteps n) = { s with pipeline := p } ∧
      (∀ ε, (Pipeline.workThrough n : Action ε (Pipeline σ) Unit).Ends s.pipeline (.ok ()) p) ∧
      Idle p ∧ p.queue = s.pipeline.queue.drop n ∧
      p.workers.length = s.pipeline.workers.length ∧ p.accepting = s.pipeline.accepting := by
  induction n generalizing s with
  | zero => exact ⟨s.pipeline, rfl, fun _ => ⟨rfl, rfl⟩, hidle, rfl, rfl, rfl⟩
  | succ n ih =>
    obtain ⟨p, hafter, hends, hidle, hqueue, hlength, haccepting⟩ := after_work hidle hworkers
    have hsome : p.workers ≠ [] := by
      rw [← List.length_pos_iff] at hworkers ⊢
      exact hlength ▸ hworkers
    obtain ⟨p', hafter', hends', hidle', hqueue', hlength', haccepting'⟩ :=
      ih (s := { s with pipeline := p }) hidle hsome
    refine ⟨p', ?_, fun ε => (hends ε).bind (hends' ε), hidle', ?_, hlength'.trans hlength,
      haccepting'.trans haccepting⟩
    · calc s.after (workSteps (n + 1)) = (s.after [.take 0, .finish 0]).after (workSteps n) := rfl
        _ = { s with pipeline := p' } := by rw [hafter, hafter']
    · rw [hqueue', hqueue, List.drop_tail]

def stopSteps (n : Nat) : List Step := (List.range n).map .stop

theorem after_stopSteps (n : Nat) (hn : n ≤ s.pipeline.workers.length) (hidle : Idle s.pipeline)
    (hclosed : s.pipeline.accepting = false) (hqueue : s.pipeline.queue = []) :
    ∃ stopped, s.after (stopSteps n) = { s with stopped } ∧ ∀ worker < n, worker ∈ stopped := by
  induction n with
  | zero => exact ⟨s.stopped, rfl, nofun⟩
  | succ n ih =>
    obtain ⟨stopped, hafter, hstopped⟩ := ih (Nat.le_of_succ_le hn)
    refine ⟨n :: stopped, ?_, fun worker hlt => ?_⟩
    · have hmay : mayStop { s with stopped } n := ⟨hidle.getElem? hn, hclosed, hqueue⟩
      rw [stopSteps, List.range_succ, List.map_append, after_append, ← stopSteps, hafter]
      exact if_pos hmay
    · rcases Nat.lt_succ_iff_lt_or_eq.mp hlt with hlt | rfl
      · exact List.mem_cons_of_mem n (hstopped worker hlt)
      · exact List.mem_cons_self

/-- The workers apply what they hold, the first one what is queued, and all stop; the call that waits for them
returns. -/
def windUp (s : Process σ) : List Step :=
  finishSteps s.pipeline.workers.length ++ (workSteps s.pipeline.queue.length ++
    (stopSteps s.pipeline.workers.length ++ [.leave]))

omit [Store σ] in
theorem windUp_inner (s : Process σ) : ∀ step ∈ s.windUp, Inner step := by
  have hwork : ∀ n, ∀ step ∈ workSteps n, Inner step := by
    intro n
    induction n with
    | zero => exact nofun
    | succ n ih => exact List.forall_mem_cons.mpr ⟨trivial, List.forall_mem_cons.mpr ⟨trivial, ih⟩⟩
  have hmap : ∀ (f : Nat → Step), (∀ n, Inner (f n)) → ∀ n, ∀ step ∈ (List.range n).map f, Inner step := by
    intro f hf n step hstep
    obtain ⟨k, -, rfl⟩ := List.mem_map.mp hstep
    exact hf k
  refine List.forall_mem_append.mpr ⟨hmap .finish (fun _ => trivial) _, List.forall_mem_append.mpr ⟨hwork _, ?_⟩⟩
  refine List.forall_mem_append.mpr ⟨hmap .stop (fun _ => trivial) _, ?_⟩
  exact List.forall_mem_singleton.mpr trivial

theorem after_windUp (hdraining : s.draining = true) (hclosed : s.pipeline.accepting = false)
    (hworkers : s.pipeline.workers ≠ []) :
    ∃ p stopped, p.workers.length = s.pipeline.workers.length ∧
      (∀ ε, (Pipeline.finishAll s.pipeline.workers.length >>= fun _ => Pipeline.drain :
        Action ε (Pipeline σ) Unit).Ends s.pipeline (.ok ()) p) ∧
      s.after s.windUp = { s with
        pipeline := { p with workers := [] }, stopped, draining := false, returned := s.returned + 1 } := by
  obtain ⟨p, hafter, hends, hheld, hqueue, hlength, haccepting⟩ := after_finishSteps s s.pipeline.workers.length
  have hidle : Idle p := by
    intro worker
    by_cases hlt : worker < s.pipeline.workers.length
    · exact hheld worker hlt
    · rw [Pipeline.held, List.getElem?_eq_none (hlength ▸ Nat.le_of_not_lt hlt)]
      rfl
  have hsome : p.workers ≠ [] := by
    rw [← List.length_pos_iff] at hworkers ⊢
    exact hlength ▸ hworkers
  obtain ⟨p', hafter', hends', hidle', hqueue', hlength', haccepting'⟩ :=
    after_workSteps (s := { s with pipeline := p }) s.pipeline.queue.length hidle hsome
  have hempty : p'.queue = [] := by rw [hqueue', hqueue, List.drop_length]
  obtain ⟨stopped, hafter'', hstopped⟩ := after_stopSteps (s := { s with pipeline := p' })
    s.pipeline.workers.length (Nat.le_of_eq (hlength'.trans hlength).symm) hidle'
    (haccepting'.trans (haccepting.trans hclosed)) hempty
  refine ⟨p', stopped, hlength'.trans hlength, fun ε => (hends ε).bind ?_, ?_⟩
  · refine Action.ends_state_bind.mpr ?_
    rw [hqueue]
    exact hends' ε
  · rw [windUp, after_append, hafter, after_append, hafter', after_append, hafter'']
    exact if_pos ⟨hdraining, fun worker hlt => hstopped worker (by simpa [hlength', hlength] using hlt)⟩

def shutdownSteps (s : Process σ) : List Step :=
  .close :: .enter :: if s.pipeline.workers = [] then [] else s.windUp

/-- Where no other call is under way, a shutdown in one piece does what its steps do one after the other. -/
theorem shutdown_ends (hwaiting : s.waiting = 0) (hdraining : s.draining = false) :
    (∀ ε, (Pipeline.shutdown : Action ε (Pipeline σ) Unit).Ends s.pipeline (.ok ())
      (s.after s.shutdownSteps).pipeline) ∧
    (s.after s.shutdownSteps).waiting = 0 ∧ (s.after s.shutdownSteps).draining = false ∧
    (s.after s.shutdownSteps).returned = s.returned + 1 := by
  obtain ⟨p, stopped, waiting, draining, returned⟩ := s
  obtain rfl : waiting = 0 := hwaiting
  obtain rfl : draining = false := hdraining
  by_cases hworkers : p.workers = []
  · have hafter : after ⟨p, stopped, 0, false, returned⟩ [.close, .enter] =
        ⟨{ p with accepting := false }, stopped, 0, false, returned + 1⟩ :=
      step_enter_of_nil (s := ⟨{ p with accepting := false }, stopped, 1, false, returned⟩) nofun rfl hworkers
    rw [shutdownSteps, if_pos hworkers, hafter]
    refine ⟨fun ε => (Action.ends_modify.mpr ⟨rfl, rfl⟩).bind (Action.ends_state_bind.mpr ?_), rfl, rfl, rfl⟩
    rw [if_pos hworkers]
    exact ⟨rfl, rfl⟩
  · have hentered : after ⟨p, stopped, 0, false, returned⟩ [.close, .enter] =
        ⟨{ p with accepting := false }, stopped, 0, true, returned⟩ :=
      step_enter_of_ne_nil (s := ⟨{ p with accepting := false }, stopped, 1, false, returned⟩) nofun rfl hworkers
    obtain ⟨p', stopped', -, hends, hafter⟩ :=
      after_windUp (s := ⟨{ p with accepting := false }, stopped, 0, true, returned⟩) rfl rfl hworkers
    have hafter : after ⟨p, stopped, 0, false, returned⟩ (shutdownSteps ⟨p, stopped, 0, false, returned⟩) =
        ⟨{ p' with workers := [] }, stopped', 0, false, returned + 1⟩ := by
      rw [shutdownSteps, if_neg hworkers]
      exact (congrArg (fun s => after s _) hentered).trans hafter
    rw [hafter]
    refine ⟨fun ε => (Action.ends_modify.mpr ⟨rfl, rfl⟩).bind (Action.ends_state_bind.mpr ?_), rfl, rfl, rfl⟩
    obtain ⟨x, p'', hfinish, hdrain⟩ := Action.ends_bind_ok.mp (hends ε)
    rw [if_neg hworkers]
    refine Action.ends_emit_bind.mpr (hfinish.bind (hdrain.bind (Action.ends_emitAll_bind.mpr ?_)))
    exact (Action.ends_modify.mpr ⟨rfl, rfl⟩).bind (Action.ends_emit.mpr ⟨rfl, rfl⟩)

theorem after_enters (n : Nat) (hworkers : s.pipeline.workers = []) (hwaiting : s.waiting = n)
    (hdraining : s.draining = false) :
    s.after (List.replicate n .enter) = { s with waiting := 0, returned := s.returned + n } := by
  induction n generalizing s with
  | zero =>
    obtain ⟨p, stopped, waiting, draining, returned⟩ := s
    obtain rfl : waiting = 0 := hwaiting
    rfl
  | succ n ih =>
    have hstep : s.step .enter = { s with waiting := n, returned := s.returned + 1 } := by
      rw [step_enter_of_nil (hwaiting ▸ Nat.succ_ne_zero n) hdraining hworkers, hwaiting, Nat.add_sub_cancel]
    calc s.after (List.replicate (n + 1) .enter) = (s.step .enter).after (List.replicate n .enter) := rfl
      _ = { s with waiting := 0, returned := s.returned + 1 + n } := by
        rw [hstep]
        exact ih (s := { s with waiting := n, returned := s.returned + 1 }) hworkers rfl hdraining
      _ = { s with waiting := 0, returned := s.returned + (n + 1) } := by rw [Nat.add_assoc, Nat.add_comm 1 n]

/-- The calls that are under way can all return. -/
def CanReturn (s : Process σ) : Prop := ∃ steps, (∀ step ∈ steps, Inner step) ∧
  (s.after steps).waiting = 0 ∧ (s.after steps).draining = false ∧
  (s.after steps).returned = s.returned + s.waiting + s.draining.toNat

theorem canReturn_of_nil (hworkers : s.pipeline.workers = []) (hdraining : s.draining = false) : s.CanReturn := by
  refine ⟨List.replicate s.waiting .enter, fun step hstep => ?_, ?_⟩
  · rw [List.eq_of_mem_replicate hstep]
    trivial
  · rw [after_enters s.waiting hworkers rfl hdraining, hdraining]
    exact ⟨rfl, rfl, rfl⟩

theorem canReturn_of_draining (hs : s.Orderly) (hdraining : s.draining = true) : s.CanReturn := by
  obtain ⟨p, stopped, -, -, hafter⟩ := after_windUp hdraining (hs.called (.inr hdraining)) (hs.draining hdraining)
  obtain ⟨steps, hinner, hwaiting, hdone, hreturned⟩ := canReturn_of_nil (s := s.after s.windUp)
    (by rw [hafter]) (by rw [hafter])
  refine ⟨s.windUp ++ steps, List.forall_mem_append.mpr ⟨s.windUp_inner, hinner⟩, ?_⟩
  rw [after_append]
  refine ⟨hwaiting, hdone, hreturned.trans ?_⟩
  rw [hafter, hdraining]
  exact Nat.add_right_comm s.returned 1 s.waiting

/-- Whatever has happened, the calls can return, and nobody needs to submit or to call anything for it. -/
theorem Orderly.canReturn (hs : s.Orderly) : s.CanReturn := by
  by_cases hworkers : s.pipeline.workers = []
  · cases hdraining : s.draining with
    | true => exact absurd hworkers (hs.draining hdraining)
    | false => exact canReturn_of_nil hworkers hdraining
  · cases hdraining : s.draining with
    | true => exact canReturn_of_draining hs hdraining
    | false =>
      by_cases hwaiting : s.waiting = 0
      · exact ⟨[], nofun, hwaiting, hdraining, by rw [hwaiting, hdraining]; rfl⟩
      · obtain ⟨steps, hinner, hnone, hdone, hreturned⟩ :=
          canReturn_of_draining (s.step_orderly .enter hs) (by rw [step_enter_of_ne_nil hwaiting hdraining hworkers])
        refine ⟨.enter :: steps, List.forall_mem_cons.mpr ⟨trivial, hinner⟩, hnone, hdone, hreturned.trans ?_⟩
        rw [step_enter_of_ne_nil hwaiting hdraining hworkers, hdraining]
        show s.returned + (s.waiting - 1) + 1 = s.returned + s.waiting + 0
        omega

end ShortLinks.Deletion.Process
