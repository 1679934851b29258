import ShortLinks.Proofs.Service.Composition
import ShortLinks.Proofs.Service.Run

/-!
# Which jobs a request applies

Only the requests that let the pipeline go on apply jobs, and they note each of them. So the jobs that a run has
applied can be read off what was noted, and they are all that has changed the entries that were there before.
-/

set_option autoImplicit false

namespace ShortLinks.Service

variable {σ α : Type} [Store σ] [LawfulStore σ]

theorem quiet_composes : Composes fun {α : Type} (a : Action ServiceError (Service σ) α) => a.Quiet where
  pure := Action.quiet_pure
  fail := Action.quiet_fail
  bind := Action.Quiet.bind
  state := Action.quiet_state
  draw _ _ := rfl
  emit _ h := h
  onStore call _ _ hcall := (((LawfulStore.quiet call hcall).mapError _).onPart _ _).onPart _ _
  attempt call _ _ hcall := (((LawfulStore.quiet call hcall).onPart _ _).onPart _ _).attempt

theorem perform_quiet {request : Request} (h : request.deletes = false) :
    (request.perform : Action ServiceError (Service σ) Response).Quiet := by
  cases honce : request.atOnce with
  | true => exact quiet_composes.perform honce
  | false =>
    cases request with
    | requestDelete owner ids => exact Action.Quiet.map (((Deletion.Pipeline.submit_quiet _).mapError _).onPart _ _) _
    | take worker => exact Action.Quiet.map ((Action.quiet_modify _).onPart _ _) _
    | finish | drain | shutdown => cases h
    | _ => cases honce

variable {s s' : Service σ} {request : Request} {r : Except ServiceError Response} {id : String}

theorem applies_map {a : Action ServiceError (Service σ) α} {f : α → Response}
    (ha : ∀ r₀, a.Ends s r₀ s' → s'.contents = s.contents.applyJobs (a.applied s)) (hends : (f <$> a).Ends s r s') :
    s'.contents = s.contents.applyJobs ((f <$> a).applied s) := by
  obtain ⟨r₀, hcall, -⟩ := Action.ends_map.mp hends
  rw [Action.applied_map]
  exact ha r₀ hcall

theorem perform_applies (h : s.Ready) (hdeletes : request.deletes = true) (hends : request.perform.Ends s r s') :
    s'.contents = s.contents.applyJobs (request.perform.applied s) := by
  cases request with
  | finish worker =>
    exact applies_map (fun _ hcall => (onPipeline_applies (Deletion.Pipeline.applies_finish worker) h hcall).2) hends
  | drain => exact applies_map (fun _ hcall => (onPipeline_applies Deletion.Pipeline.applies_composes.drain h hcall).2) hends
  | shutdown => exact applies_map (fun _ hcall => (shutdown_applies h hcall).2) hends
  | _ => cases hdeletes

/-- An entry that is there before a request is what the jobs leave of it that the request applies. -/
theorem contents_of_perform (h : s.Ready) (hends : request.perform.Ends s r s') (hid : s.contents id ≠ none) :
    s'.contents id = s.contents.applyJobs (request.perform.applied s) id := by
  cases hdeletes : request.deletes with
  | true => rw [perform_applies h hdeletes hends]
  | false =>
    rw [perform_quiet hdeletes s]
    exact (perform_progress h hends).2.keeps hdeletes hid

end ShortLinks.Service
