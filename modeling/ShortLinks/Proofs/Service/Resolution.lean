import ShortLinks.Proofs.Service.Applied
import ShortLinks.Proofs.Service.Deduplication

/-!
# Ids lead where their history says

What a service resolves an id to is settled by two things that can be read off a run: which request stored an entry
under the id, and which jobs were applied since.
-/

set_option autoImplicit false

namespace ShortLinks

theorem Entry.canBeDeletedBy_create {id target owner requester : String} {correlation : Option String} :
    (Entry.create id target (some owner) correlation).canBeDeletedBy requester = true ↔
      requester ≠ "" ∧ (owner = "" ∨ requester = owner) := by
  have hrecorded : (Entry.create id target (some owner) correlation).owner = if owner = "" then none else some owner := by
    by_cases howner : owner = "" <;> simp [Entry.create, Option.filter, howner]
  unfold Entry.canBeDeletedBy
  rw [hrecorded]
  by_cases howner : owner = ""
  · simp [howner]
  · simp [howner, eq_comm (a := owner)]

namespace Service

variable {σ : Type} [Store σ] {s : Service σ}

def appliedIn (s : Service σ) : List Request → List Deletion.Job
  | [] => []
  | request :: rest =>
    (request.perform : Action ServiceError (Service σ) Response).applied s ++ (s.after [request]).appliedIn rest

/-- A request stores an entry under an id if it shortens a target to it, and no request did that before. -/
def Stores (s : Service σ) (before : List Request) (request : Request) (target id : String) : Prop :=
  s.Shortens before request target id ∧
    ∀ earlier other between target', before = earlier ++ other :: between → ¬ s.Shortens earlier other target' id

/-- In the course of a run an entry was stored under an id, for a target and an owner, and these are the jobs that were
applied since. -/
def StoredSince (s : Service σ) (requests : List Request) (target owner id : String) (jobs : List Deletion.Job) : Prop :=
  ∃ before request between, requests = before ++ request :: between ∧ s.Stores before request target id ∧
    request.owner = owner ∧ (s.after (before ++ [request])).appliedIn between = jobs

/-- A job asks for an id on behalf of somebody who may delete what the owner has. -/
def Removes (jobs : List Deletion.Job) (owner id : String) : Prop :=
  ∃ job ∈ jobs, id ∈ job.ids ∧ job.owner ≠ "" ∧ (owner = "" ∨ job.owner = owner)

/-- What it means for every run that starts from here, and every place in it, that ids lead where their history says. -/
structure FollowsHistory (s : Service σ) : Prop where
  redirected (requests : List Request) (target id : String) :
    (s.after requests).answer (.redirectTarget id) = .ok (.target target) ↔
      ∃ owner jobs, s.StoredSince requests target owner id jobs ∧ ¬ Removes jobs owner id
  gone (requests : List Request) (id : String) : (s.after requests).answer (.redirectTarget id) = .error (.gone id) ↔
      ∃ target owner jobs, s.StoredSince requests target owner id jobs ∧ Removes jobs owner id
  notFound (requests : List Request) (id : String) :
    (s.after requests).answer (.redirectTarget id) = .error (.notFound id) ↔
      ∀ target owner jobs, ¬ s.StoredSince requests target owner id jobs
  resolved (requests : List Request) (target id : String) :
    (∃ e, (s.after requests).Stored id e ∧ e.target = target ∧ e.deleted = false) ↔
      ∃ owner jobs, s.StoredSince requests target owner id jobs ∧ ¬ Removes jobs owner id
  deleted (requests : List Request) (id : String) : (s.after requests).Deleted id ↔
      ∃ target owner jobs, s.StoredSince requests target owner id jobs ∧ Removes jobs owner id
  absent (requests : List Request) (id : String) : (s.after requests).answer (.resolve id) = .ok (.entry none) ↔
      ∀ target owner jobs, ¬ s.StoredSince requests target owner id jobs
  fresh {before : List Request} {request : Request} {target id : String} (h : s.Shortens before request target id) :
    s.Stores before request target id ↔ (s.after before).Vacant target
  created {before : List Request} {owner target : String} {o : CreateOutcome}
    (h : (s.after before).answer (.create owner target) = .ok (.outcome o)) :
    s.Stores before (.create owner target) target o.entry.id ↔ o.isNew = true

variable [LawfulStore σ] {requests before between : List Request} {request : Request} {target owner id : String}
  {e : Entry} {jobs : List Deletion.Job}

theorem Sound.contents_after (h : s.Sound) (requests : List Request) (hid : s.contents id ≠ none) :
    (s.after requests).contents id = s.contents.applyJobs (s.appliedIn requests) id := by
  induction requests generalizing s with
  | nil => rfl
  | cons request requests ih =>
    have hstep : (s.after [request]).contents id = s.contents.applyJobs (request.perform.applied s) id :=
      contents_of_perform h.ready (Action.ends_run request.perform s) hid
    have hstays : (s.after [request]).contents id ≠ none := by
      rw [hstep, Contents.applyJobs_apply]
      simpa using hid
    rw [after_cons, ih (h.progress request).1 hstays, appliedIn, Contents.applyJobs_append, Contents.applyJobs_apply,
      Contents.applyJobs_apply _ (Service.appliedIn _ _), hstep]

theorem exists_origin (hstart : s.contents id = none) (hid : (s.after requests).contents id ≠ none) :
    ∃ before request between, requests = before ++ request :: between ∧ (s.after before).contents id = none ∧
      (s.after (before ++ [request])).contents id ≠ none := by
  induction requests using List.reverseRecOn with
  | nil => exact absurd hstart hid
  | append_singleton requests last ih =>
    by_cases hbefore : (s.after requests).contents id = none
    · exact ⟨requests, last, [], rfl, hbefore, hid⟩
    · obtain ⟨before, request, between, rfl, hnone, hsome⟩ := ih hbefore
      exact ⟨before, request, between ++ [last], by simp, hnone, hsome⟩

theorem Ready.answer_resolve (h : s.Ready) (id : String) : s.answer (.resolve id) = .ok (.entry (s.contents id)) := by
  obtain ⟨r₀, hcall, heq⟩ := Action.ends_map.mp (Action.ends_run (Request.resolve id).perform s)
  rw [(getById_ends h hcall).2.1] at heq
  exact heq

theorem Ready.answer_redirectTarget (h : s.Ready) (id : String) : s.answer (.redirectTarget id) = match s.contents id with
    | none => .error (.notFound id)
    | some e => if e.deleted then .error (.gone id) else .ok (.target e.target) := by
  obtain ⟨r₀, hcall, heq⟩ := Action.ends_map.mp (Action.ends_run (Request.redirectTarget id).perform s)
  refine heq.trans ?_
  rcases Action.ends_bind.mp hcall with ⟨found, s₁, hfound, hrest⟩ | ⟨e, hfound, -⟩
  · have hcontents := (getById_ends h hfound).2.1
    cases hcontents
    cases hid : s.contents id with
    | none =>
      rw [hid] at hrest
      rw [(Action.ends_fail.mp hrest).1]
      rfl
    | some e =>
      rw [hid] at hrest
      dsimp only at hrest ⊢
      split at hrest
      · next hdel => rw [(Action.ends_fail.mp hrest).1, if_pos hdel]; rfl
      · next hlive => rw [(Action.ends_pure.mp hrest).1, if_neg hlive]; rfl
  · cases (getById_ends h hfound).2.1

theorem Ready.redirected_iff (h : s.Ready) : s.answer (.redirectTarget id) = .ok (.target target) ↔
    ∃ e, s.contents id = some e ∧ e.target = target ∧ e.deleted = false := by
  rw [h.answer_redirectTarget]
  cases s.contents id with
  | none => simp
  | some e => cases hdel : e.deleted <;> simp [hdel]

theorem Ready.gone_iff (h : s.Ready) : s.answer (.redirectTarget id) = .error (.gone id) ↔
    ∃ e, s.contents id = some e ∧ e.deleted = true := by
  rw [h.answer_redirectTarget]
  cases s.contents id with
  | none => simp
  | some e => cases hdel : e.deleted <;> simp [hdel]

theorem Ready.notFound_iff (h : s.Ready) : s.answer (.redirectTarget id) = .error (.notFound id) ↔ s.contents id = none := by
  rw [h.answer_redirectTarget]
  cases s.contents id with
  | none => simp
  | some e => cases hdel : e.deleted <;> simp [hdel]

namespace Sound

theorem contents_ne_none (h : s.Sound) (hshortens : s.Shortens before request target id) (between : List Request) :
    (s.after (before ++ request :: between)).contents id ≠ none := by
  obtain ⟨x, hx, rfl⟩ := (h.next before request).live_of_mem hshortens
  rcases h.later before between request x.id x hx.1 with hsame | hmarked
  · rw [hsame]
    exact Option.some_ne_none x
  · rw [hmarked]
    exact Option.some_ne_none x.markDeleted

theorem stores_of_none (h : s.Sound) (hshortens : s.Shortens before request target id)
    (hid : (s.after before).contents id = none) : s.Stores before request target id := by
  refine ⟨hshortens, ?_⟩
  rintro earlier other between target' rfl hearlier
  exact h.contents_ne_none hearlier between hid

theorem stores_of_born (h : s.Sound) (hnone : (s.after before).contents id = none)
    (he : (s.after (before ++ [request])).contents id = some e) :
    s.Stores before request e.target id ∧ e = Entry.create id e.target (some request.owner) e.correlation := by
  obtain ⟨hshortens, hcreate⟩ := (h.next before request).born hnone he
  exact ⟨h.stores_of_none hshortens hnone, hcreate⟩

theorem none_of_stores (h : s.Sound) (hstart : s.contents id = none) (hstores : s.Stores before request target id) :
    (s.after before).contents id = none := by
  by_contra hid
  obtain ⟨earlier, other, between, rfl, hnone, hsome⟩ := exists_origin hstart hid
  obtain ⟨x, hx⟩ := Option.ne_none_iff_exists'.mp hsome
  exact hstores.2 earlier other between x.target rfl (h.stores_of_born hnone hx).1.1

theorem exists_storedSince (h : s.Sound) (hstart : s.contents id = none) (hid : (s.after requests).contents id ≠ none) :
    ∃ target owner jobs, s.StoredSince requests target owner id jobs := by
  obtain ⟨before, request, between, rfl, hnone, hsome⟩ := exists_origin hstart hid
  obtain ⟨x, hx⟩ := Option.ne_none_iff_exists'.mp hsome
  exact ⟨x.target, _, _, before, request, between, rfl, (h.stores_of_born hnone hx).1, rfl, rfl⟩

/-- The history of an id says for what target its entry is, and whether it is deleted. -/
theorem contents_of_storedSince (h : s.Sound) (hstart : s.contents id = none)
    (hstored : s.StoredSince requests target owner id jobs) :
    ∃ e, (s.after requests).contents id = some e ∧ e.target = target ∧ (e.deleted = true ↔ Removes jobs owner id) := by
  obtain ⟨before, request, between, rfl, hstores, rfl, rfl⟩ := hstored
  obtain ⟨x, hx, rfl⟩ := (h.next before request).live_of_mem hstores.1
  obtain ⟨-, hcreate⟩ := h.stores_of_born (h.none_of_stores hstart hstores) hx.1
  have hborn := (h.after (before ++ [request])).1
  have hlater := hborn.contents_after between (by rw [hx.1]; exact Option.some_ne_none x)
  rw [← after_append, ← List.append_cons, Contents.applyJobs_apply, hx.1, Option.map_some] at hlater
  have hremoves : (∃ job ∈ (s.after (before ++ [request])).appliedIn between,
      x.id ∈ job.ids ∧ x.canBeDeletedBy job.owner = true) ↔
        Removes ((s.after (before ++ [request])).appliedIn between) request.owner x.id := by
    have hcan : ∀ requester, x.canBeDeletedBy requester = true ↔
        requester ≠ "" ∧ (request.owner = "" ∨ requester = request.owner) := by
      intro requester
      rw [hcreate]
      exact Entry.canBeDeletedBy_create
    simp only [hcan]
    rfl
  refine ⟨_, hlater, ?_, ?_⟩
  · rw [apply_ite Entry.target]
    exact (ite_self _).trans hx.target_eq
  · rw [← hremoves]
    split
    · next hjob => exact iff_of_true rfl hjob
    · next hjob => exact iff_of_false (by rw [hx.live]; exact Bool.false_ne_true) hjob

theorem live_iff (h : s.Sound) (hstart : s.contents id = none) :
    (∃ e, (s.after requests).contents id = some e ∧ e.target = target ∧ e.deleted = false) ↔
      ∃ owner jobs, s.StoredSince requests target owner id jobs ∧ ¬ Removes jobs owner id := by
  constructor
  · rintro ⟨e, he, rfl, hlive⟩
    obtain ⟨target, owner, jobs, hstored⟩ :=
      h.exists_storedSince hstart (by rw [he]; exact Option.some_ne_none e)
    obtain ⟨x, hx, rfl, hdeleted⟩ := h.contents_of_storedSince hstart hstored
    rw [he] at hx
    cases hx
    exact ⟨owner, jobs, hstored, fun hjob => by rw [hdeleted.mpr hjob] at hlive; cases hlive⟩
  · rintro ⟨owner, jobs, hstored, hkept⟩
    obtain ⟨x, hx, htarget, hdeleted⟩ := h.contents_of_storedSince hstart hstored
    exact ⟨x, hx, htarget, eq_false_of_ne_true fun hdel => hkept (hdeleted.mp hdel)⟩

theorem deleted_iff (h : s.Sound) (hstart : s.contents id = none) :
    (∃ e, (s.after requests).contents id = some e ∧ e.deleted = true) ↔
      ∃ target owner jobs, s.StoredSince requests target owner id jobs ∧ Removes jobs owner id := by
  constructor
  · rintro ⟨e, he, hdel⟩
    obtain ⟨target, owner, jobs, hstored⟩ :=
      h.exists_storedSince hstart (by rw [he]; exact Option.some_ne_none e)
    obtain ⟨x, hx, rfl, hdeleted⟩ := h.contents_of_storedSince hstart hstored
    rw [he] at hx
    cases hx
    exact ⟨_, owner, jobs, hstored, hdeleted.mp hdel⟩
  · rintro ⟨target, owner, jobs, hstored, hremoved⟩
    obtain ⟨x, hx, -, hdeleted⟩ := h.contents_of_storedSince hstart hstored
    exact ⟨x, hx, hdeleted.mpr hremoved⟩

theorem none_iff (h : s.Sound) (hstart : s.contents id = none) : (s.after requests).contents id = none ↔
    ∀ target owner jobs, ¬ s.StoredSince requests target owner id jobs := by
  constructor
  · intro hnone target owner jobs hstored
    obtain ⟨x, hx, -⟩ := h.contents_of_storedSince hstart hstored
    rw [hnone] at hx
    cases hx
  · intro hnever
    by_contra hid
    obtain ⟨target, owner, jobs, hstored⟩ := h.exists_storedSince hstart hid
    exact hnever target owner jobs hstored

/-- What is shortened is stored exactly where nothing live was there for it. -/
theorem stores_iff_vacant (h : s.Sound) (hstart : s.contents id = none) (hshortens : s.Shortens before request target id) :
    s.Stores before request target id ↔ (s.after before).Vacant target := by
  have hprogress := h.next before request
  rw [(h.after before).1.vacant_iff]
  constructor
  · intro hstores x hx
    obtain ⟨y, hy, rfl⟩ := hprogress.live_of_mem hshortens
    have hx' := hprogress.liveFor (Request.creates_of_mem_creations hshortens) hx
    have hnone := h.none_of_stores hstart hstores
    rw [(h.after (before ++ [request])).1.oneLive target _ _ hy hx', hx.1] at hnone
    cases hnone
  · intro hvacant
    rcases hprogress.live_or_new hshortens with ⟨x, hx, -⟩ | hnew
    · exact absurd hx (hvacant x)
    · exact h.stores_of_none hshortens hnew

theorem followsHistory (h : s.Sound) (hnothing : s.contents = .nothing) : s.FollowsHistory := by
  have hstart : ∀ id, s.contents id = none := fun id => congrFun hnothing id
  exact {
    redirected := fun requests target id => (h.after requests).1.ready.redirected_iff.trans (h.live_iff (hstart id))
    gone := fun requests id => (h.after requests).1.ready.gone_iff.trans (h.deleted_iff (hstart id))
    notFound := fun requests id => (h.after requests).1.ready.notFound_iff.trans (h.none_iff (hstart id))
    resolved := fun requests target id => by
      simp only [(h.after requests).1.stored_iff]
      exact h.live_iff (hstart id)
    deleted := fun requests id => by
      unfold Deleted
      simp only [(h.after requests).1.stored_iff]
      exact h.deleted_iff (hstart id)
    absent := fun requests id => by
      rw [(h.after requests).1.ready.answer_resolve, ← h.none_iff (hstart id)]
      simp
    fresh := fun {before request target id} hshortens => h.stores_iff_vacant (hstart id) hshortens
    created := fun {before owner target o} hanswer => by
      have hshortens : s.Shortens before (.create owner target) target o.entry.id := by
        unfold Shortens
        rw [hanswer]
        exact List.mem_singleton_self _
      have hprogress := h.next before (.create owner target)
      rw [h.stores_iff_vacant (hstart _) hshortens, (h.after before).1.vacant_iff]
      rw [hanswer] at hprogress
      exact hprogress.isNew_iff.symm }

end Sound

/-- Over every run of a service, an id leads where its history says: on the memory store, and on a file store that was
opened on a missing or an empty file, on a disk that does not fail. -/
theorem runs_follow_history (random : Random) (shortIdLength ownerIdLength workers capacity : Nat) :
    (started MemoryStore.empty random shortIdLength ownerIdLength workers capacity).FollowsHistory ∧
    ∀ (path : String) (d : Disk) (store : FileStore), FileStore.Opens path d store → d.Steady →
      (d.content? path = none ∨ d.content? path = some []) →
      (started store random shortIdLength ownerIdLength workers capacity).FollowsHistory := by
  constructor
  · exact (started_sound MemoryStore.empty_consistent MemoryStore.contents_empty _ _ _ _ _).followsHistory
      MemoryStore.contents_empty
  · intro path d store hopens hsteady hfresh
    have hagree := Agree.opened hopens hfresh
    have hready : LawfulStore.Ready store := ⟨hagree.ready, hopens.rewritten.later.steady hsteady⟩
    have hnothing := hagree.contents.trans MemoryStore.contents_empty
    exact (started_sound hready hnothing _ _ _ _ _).followsHistory hnothing

theorem blank_runs_follow_history : ∃ store, FileStore.Opens "log" (Disk.blank []) store ∧
    (started store ⟨fun n => Random.repeated [UInt8.ofNat n], 0, 100⟩ 8 16 2 4).FollowsHistory := by
  obtain ⟨store, hopens⟩ := blank_opens
  have hmissing : (Disk.blank []).content? "log" = none := by decide
  have hsteady : (Disk.blank []).Steady := fun _ h => by cases h
  exact ⟨store, hopens, (runs_follow_history _ 8 16 2 4).2 "log" _ store hopens hsteady (.inl hmissing)⟩

end Service

end ShortLinks
