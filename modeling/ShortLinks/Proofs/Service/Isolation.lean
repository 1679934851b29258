import ShortLinks.Proofs.Deletion.Pending
import ShortLinks.Proofs.Service.Occupancy
import ShortLinks.Proofs.Service.Resolution
import ShortLinks.Proofs.Store.Compaction

/-!
# Owners are kept apart

What an owner has is changed by the owner's own requests alone, and whoever asks to delete something does not learn
whether it is there, or whose it is.
-/

set_option autoImplicit false

namespace ShortLinks

namespace Entry

variable {e : Entry} {owner requester : String}

theorem isOwnedBy_iff : e.isOwnedBy owner = true ↔ owner ≠ "" ∧ e.owner = some owner := by
  simp [isOwnedBy]

theorem eq_of_canBeDeletedBy (howned : e.isOwnedBy owner = true) (hcan : e.canBeDeletedBy requester = true) :
    requester = owner := by
  obtain ⟨-, hrecorded⟩ := isOwnedBy_iff.mp howned
  simp only [canBeDeletedBy, hrecorded, Option.isNone_some, Bool.false_or, Bool.and_eq_true, beq_iff_eq,
    Option.some.injEq] at hcan
  exact hcan.2.symm

theorem eq_of_isOwnedBy_create {id target creator : String} {correlation : Option String}
    (h : (create id target (some creator) correlation).isOwnedBy owner = true) : creator = owner := by
  have hrecorded : (some creator).filter (· != "") = some owner := (isOwnedBy_iff.mp h).2
  exact Option.some.inj (Option.filter_eq_some_iff.mp hrecorded).1

end Entry

namespace Contents

variable {c c' c'' : Contents} {jobs : List Deletion.Job} {owner id : String} {e x : Entry}

/-- An owner has the same entries, in the same states. -/
def SameFor (owner : String) (c c' : Contents) : Prop :=
  ∀ id e, e.isOwnedBy owner = true → (c' id = some e ↔ c id = some e)

theorem SameFor.refl (owner : String) (c : Contents) : SameFor owner c c := fun _ _ _ => Iff.rfl

theorem SameFor.trans (h : SameFor owner c c') (h' : SameFor owner c' c'') : SameFor owner c c'' :=
  fun id e howned => (h' id e howned).trans (h id e howned)

theorem applyJobs_of_owned (hjobs : ∀ job ∈ jobs, job.owner ≠ owner) (he : c id = some e)
    (howned : e.isOwnedBy owner = true) : c.applyJobs jobs id = some e := by
  rw [applyJobs_apply, he, Option.map_some, if_neg]
  rintro ⟨job, hjob, -, hcan⟩
  exact hjobs job hjob (Entry.eq_of_canBeDeletedBy howned hcan)

theorem of_applyJobs_of_owned (hjobs : ∀ job ∈ jobs, job.owner ≠ owner) (he : c.applyJobs jobs id = some e)
    (howned : e.isOwnedBy owner = true) : c id = some e := by
  cases hid : c id with
  | none =>
    rw [applyJobs_apply, hid] at he
    cases he
  | some x =>
    have hx : x.isOwnedBy owner = true := by
      rw [applyJobs_apply, hid, Option.map_some, Option.some.injEq] at he
      rw [← he] at howned
      split at howned <;> exact howned
    rw [← he, applyJobs_of_owned hjobs hid hx]

end Contents

namespace Service

variable {σ : Type} [Store σ]

/-- On whose behalf a request is made. Nobody has to say who he is to read, and the pipeline goes on by itself. -/
def Request.requester? : Request → Option String
  | .create owner _ | .createBatch owner _ | .requestDelete owner _ => some owner
  | _ => none

def Settled (s : Service σ) (owner : String) : Prop := ∀ job, s.pipeline.Waits job → job.owner ≠ owner

variable {s : Service σ} {request : Request} {job : Deletion.Job}

theorem Request.requester?_of_creates (h : request.creates = true) : request.requester? = some request.owner := by
  cases request <;> first | rfl | cases h

theorem quiet_inPipeline (h : request.deletes = false) :
    (request.inPipeline : Action ServiceError (Deletion.Pipeline σ) Unit).Quiet := by
  cases request with
  | requestDelete owner ids => exact (Deletion.Pipeline.submit_quiet ⟨owner, ids⟩).mapError _
  | take worker => exact Action.quiet_modify _
  | finish | drain | shutdown => cases h
  | _ => exact Action.quiet_pure ()

variable [LawfulStore σ]

theorem consumes_inPipeline (h : ∀ owner ids, request ≠ .requestDelete owner ids) : Deletion.Consumes
    Deletion.Pipeline.Waits (request.inPipeline : Action ServiceError (Deletion.Pipeline σ) Unit) := by
  have hparts := Deletion.Pipeline.consumes_composes (σ := σ) (ε := ServiceError)
  cases request with
  | requestDelete owner ids => exact absurd rfl (h owner ids)
  | take worker => exact hparts.take worker
  | finish worker => exact hparts.finish worker
  | drain => exact hparts.drain
  | shutdown => exact hparts.shutdown
  | _ => exact hparts.pure ()

theorem applied_eq (s : Service σ) (request : Request) :
    (request.perform : Action ServiceError (Service σ) Response).applied s =
      (request.inPipeline : Action ServiceError (Deletion.Pipeline σ) Unit).applied s.pipeline := by
  cases hdeletes : request.deletes with
  | false => rw [perform_quiet hdeletes s, quiet_inPipeline hdeletes s.pipeline]
  | true =>
    cases request with
    | finish | drain => exact Action.applied_map _ _ s
    | shutdown => exact (Action.applied_map _ _ s).trans (applied_shutdown s)
    | _ => cases hdeletes

theorem waits_of_applied (h : job ∈ (request.perform : Action ServiceError (Service σ) Response).applied s) :
    s.pipeline.Waits job := by
  cases hdeletes : request.deletes with
  | false =>
    rw [perform_quiet hdeletes s] at h
    cases h
  | true =>
    rw [applied_eq] at h
    refine (consumes_inPipeline ?_ s.pipeline).1 job h
    rintro owner ids rfl
    cases hdeletes

theorem waits_of_after (h : (s.after [request]).pipeline.Waits job) :
    s.pipeline.Waits job ∨ request.requester? = some job.owner := by
  obtain ⟨store, hstep⟩ := after_pipeline s request
  rw [hstep] at h
  have hwaits : (request.inPipeline.run s.pipeline).state.Waits job := h
  by_cases hsubmits : ∃ owner ids, request = .requestDelete owner ids
  · obtain ⟨owner, ids, rfl⟩ := hsubmits
    rcases ((Deletion.Pipeline.submit_cases ⟨owner, ids⟩ s.pipeline).waits hwaits) with hold | rfl
    · exact .inl hold
    · exact .inr rfl
  · refine .inl ((consumes_inPipeline ?_ s.pipeline).2 job hwaits)
    rintro owner ids rfl
    exact hsubmits ⟨owner, ids, rfl⟩

variable {owner : String}

theorem Ready.after (h : s.Ready) (requests : List Request) : (s.after requests).Ready := by
  induction requests generalizing s with
  | nil => exact h
  | cons request requests ih => exact ih (perform_progress h (Action.ends_run request.perform s)).1

/-- A request of somebody else changes nothing for an owner for whom no job waits, and lets none wait. -/
theorem others_step (hready : s.Ready) (hsettled : s.Settled owner) (hother : request.requester? ≠ some owner) :
    (s.after [request]).Settled owner ∧ Contents.SameFor owner s.contents (s.after [request]).contents := by
  have hends : request.perform.Ends s (s.answer request) (s.after [request]) := ⟨rfl, rfl⟩
  have hprogress := (perform_progress hready hends).2
  have hjobs : ∀ job ∈ (request.perform : Action ServiceError (Service σ) Response).applied s, job.owner ≠ owner :=
    fun job hjob => hsettled job (waits_of_applied hjob)
  constructor
  · intro job hwaits
    rcases waits_of_after hwaits with hold | hnew
    · exact hsettled job hold
    · rintro rfl
      exact hother hnew
  · intro id e howned
    constructor
    · intro he
      -- an entry that was not there is the requester's; one that was there is changed by the jobs alone
      by_cases hid : s.contents id = none
      · obtain ⟨hcreated, heq⟩ := hprogress.born hid he
        rw [heq] at howned
        obtain rfl := Entry.eq_of_isOwnedBy_create howned
        exact absurd (Request.requester?_of_creates (Request.creates_of_mem_creations hcreated)) hother
      · rw [contents_of_perform hready hends hid] at he
        exact Contents.of_applyJobs_of_owned hjobs he howned
    · intro he
      have hid : s.contents id ≠ none := by rw [he]; exact Option.some_ne_none e
      rw [contents_of_perform hready hends hid]
      exact Contents.applyJobs_of_owned hjobs he howned

theorem others_after {requests : List Request} (hready : s.Ready) (hsettled : s.Settled owner)
    (hothers : ∀ request ∈ requests, request.requester? ≠ some owner) :
    Contents.SameFor owner s.contents (s.after requests).contents := by
  induction requests generalizing s with
  | nil => exact .refl owner _
  | cons request requests ih =>
    obtain ⟨hsettled', hsame⟩ := others_step hready hsettled (hothers request List.mem_cons_self)
    exact hsame.trans (ih (hready.after [request]) hsettled' fun other hother =>
      hothers other (List.mem_cons_of_mem request hother))

theorem Ready.answer_listByOwner (h : s.Ready) (owner : String) : ∃ entries,
    s.answer (.listByOwner owner) = .ok (.entries entries) ∧ entries.Nodup ∧
      ∀ e, e ∈ entries ↔ s.Stored e.id e ∧ e.isOwnedBy owner = true := by
  obtain ⟨r₀, hcall, hanswer⟩ := Action.ends_map.mp (Action.ends_run (Request.listByOwner owner).perform s)
  change s.answer (.listByOwner owner) = _ at hanswer
  rw [hanswer]
  unfold listByOwner at hcall
  by_cases hnobody : owner = ""
  · rw [if_pos hnobody] at hcall
    rw [(Action.ends_pure.mp hcall).1]
    refine ⟨[], rfl, List.nodup_nil, fun e => ?_⟩
    simp [Entry.isOwnedBy_iff, hnobody]
  · rw [if_neg hnobody] at hcall
    obtain ⟨r, store, hstore, rfl, -⟩ := onStore_ends hcall
    obtain ⟨all, entries, hlist, rfl, hperm⟩ := LawfulStore.allByOwner_answers h hstore
    refine ⟨entries, rfl, hperm.nodup_iff.mpr (hlist.nodup.filter _), fun e => ?_⟩
    rw [hperm.mem_iff, List.mem_filter, hlist.2 e, h.stored_iff]
    rfl

theorem others_stored {requests : List Request} {id : String} {e : Entry} (hready : s.Ready) (hsettled : s.Settled owner)
    (hothers : ∀ request ∈ requests, request.requester? ≠ some owner) (howned : e.isOwnedBy owner = true) :
    (s.after requests).Stored id e ↔ s.Stored id e := by
  rw [(hready.after requests).stored_iff, hready.stored_iff]
  exact others_after hready hsettled hothers id e howned

/-- What it means for every run that starts from here that owners are kept apart: as soon as no job of an owner waits,
what others ask for changes nothing for the owner. -/
structure Isolates (s : Service σ) : Prop where
  /-- The owner is answered the same entries, in the same states, and these are all that the owner has. -/
  listed {before between : List Request} {owner : String} (hsettled : (s.after before).Settled owner)
    (hothers : ∀ request ∈ between, request.requester? ≠ some owner) : ∃ entries entries',
      (s.after before).answer (.listByOwner owner) = .ok (.entries entries) ∧
      (s.after (before ++ between)).answer (.listByOwner owner) = .ok (.entries entries') ∧ entries.Perm entries' ∧
      ∀ e, e ∈ entries ↔ (s.after before).Stored e.id e ∧ e.isOwnedBy owner = true
  redirected {before between : List Request} {owner id : String} {e : Entry} (hsettled : (s.after before).Settled owner)
    (hothers : ∀ request ∈ between, request.requester? ≠ some owner) (he : (s.after before).Stored id e)
    (howned : e.isOwnedBy owner = true) :
    (s.after (before ++ between)).answer (.redirectTarget id) = (s.after before).answer (.redirectTarget id)

theorem Ready.isolates (h : s.Ready) : s.Isolates where
  listed {before between owner} hsettled hothers := by
    have hready := h.after before
    obtain ⟨entries, hanswer, hnodup, hmem⟩ := hready.answer_listByOwner owner
    obtain ⟨entries', hanswer', hnodup', hmem'⟩ := (h.after (before ++ between)).answer_listByOwner owner
    refine ⟨entries, entries', hanswer, hanswer', (List.perm_ext_iff_of_nodup hnodup hnodup').mpr fun e => ?_, hmem⟩
    rw [hmem, hmem', after_append]
    exact and_congr_left fun howned => (others_stored hready hsettled hothers howned).symm
  redirected {before between owner id e} hsettled hothers he howned := by
    have hready := h.after before
    have hlater := (others_stored hready hsettled hothers howned).mpr he
    rw [after_append, (hready.after between).answer_redirectTarget, hready.answer_redirectTarget,
      hready.stored_iff.mp he, (hready.after between).stored_iff.mp hlater]

/-- Over every run of a service, on the memory store and on a file store that was opened on a disk that does not fail,
owners are kept apart. And requests to delete do not tell the runs of two services apart, whatever their stores hold. -/
theorem runs_isolate (random : Random) (shortIdLength ownerIdLength workers capacity : Nat) :
    (started MemoryStore.empty random shortIdLength ownerIdLength workers capacity).Isolates ∧
    (∀ (path : String) (d : Disk) (store : FileStore), FileStore.Opens path d store → d.Steady →
      (started store random shortIdLength ownerIdLength workers capacity).Isolates) ∧
    ∀ {σ τ : Type} [Store σ] [Store τ] (store : σ) (other : τ) (random' : Random) (shortIdLength' ownerIdLength' : Nat),
      (started store random shortIdLength ownerIdLength workers capacity).Indistinct
        (started other random' shortIdLength' ownerIdLength' workers capacity) := by
  refine ⟨Ready.isolates MemoryStore.empty_consistent, fun path d store hopens hsteady => ?_, fun store other _ _ _ => ?_⟩
  · have hready : LawfulStore.Ready store := ⟨hopens.rewritten.ready, hopens.rewritten.later.steady hsteady⟩
    exact Ready.isolates hready
  · exact indistinct_of_alike ⟨rfl, rfl, rfl, rfl⟩

def recordedDisk (e : Entry) : Disk := ((Disk.blank []).create ["log"]).setContents 0 (Log.recordLine e)

theorem recordedDisk_holds (e : Entry) : (recordedDisk e).Holds "log" 0 :=
  Disk.Holds.setContents ⟨["log"], by decide, by decide⟩ 0 _

theorem stored_of_recorded {e : Entry} {store : FileStore} (hopens : FileStore.Opens "log" (recordedDisk e) store)
    (random : Random) (shortIdLength ownerIdLength workers capacity : Nat) :
    (started store random shortIdLength ownerIdLength workers capacity).Stored e.id e := by
  have hbytes : Log.ofBytes (((recordedDisk e).content? "log").getD []) = Log.empty.apply e := by
    rw [Disk.content?_of_holds (recordedDisk_holds e)]
    have happend := Log.ofBytes_append_recordLines .nil [e]
    rw [Log.recordLines_singleton] at happend
    exact happend
  have hfound := hopens.rewritten.answers.getById e.id
  rw [hbytes, Log.empty_indexed.get?_apply_fresh (Log.get?_empty e.id), Contents.store_self] at hfound
  exact congrArg (Except.mapError ServiceError.storage) hfound

def countingRandom : Random := ⟨fun n => Random.repeated [UInt8.ofNat n], 0, 100⟩

theorem recorded_runs_isolate : ∃ store, FileStore.Opens "log" (recordedDisk (Entry.create "a" "t" (some "u") none)) store ∧
    (started store countingRandom 8 16 2 4).Isolates ∧
    ((started store countingRandom 8 16 2 4).after [.requestDelete "v" ["a"], .drain]).answer (.redirectTarget "a") =
      .ok (.target "t") := by
  have hholds := recordedDisk_holds (Entry.create "a" "t" (some "u") none)
  have hsteady : (recordedDisk (Entry.create "a" "t" (some "u") none)).Steady := fun _ h => by cases h
  obtain ⟨store, hopens⟩ := FileStore.exists_opens hholds.writable ⟨["log.compact"], by decide, by decide⟩ hsteady
  have hisolates := (runs_isolate countingRandom 8 16 2 4).2.1 "log" _ store hopens hsteady
  refine ⟨store, hopens, hisolates, ?_⟩
  have hstored := stored_of_recorded hopens countingRandom 8 16 2 4
  have hsettled : ((started store countingRandom 8 16 2 4).after []).Settled "u" := by
    rintro job (hqueued | hheld)
    · cases hqueued
    · cases (List.mem_replicate.mp hheld).2
  have hkept : ((started store countingRandom 8 16 2 4).after ([] ++ [.requestDelete "v" ["a"], .drain])).answer
      (.redirectTarget "a") = ((started store countingRandom 8 16 2 4).after []).answer (.redirectTarget "a") :=
    hisolates.redirected hsettled (by decide) hstored (by decide)
  have hready : (started store countingRandom 8 16 2 4).Ready :=
    ⟨hopens.rewritten.ready, hopens.rewritten.later.steady hsteady⟩
  exact hkept.trans (hready.redirected_iff.mpr ⟨_, hready.stored_iff.mp hstored, rfl, rfl⟩)

end Service
end ShortLinks
