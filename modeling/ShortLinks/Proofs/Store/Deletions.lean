import ShortLinks.Proofs.Store.Permanence

/-!
# Deletions in any order

What jobs delete depends on which owner asks for which id and on nothing else: not on their order, on how the ids are
grouped into jobs, or on how often one is named. So queued jobs may be taken in any order, split and repeated.
-/

set_option autoImplicit false

namespace ShortLinks

namespace Deletion

variable {jobs jobs' : List Job} {c : Contents}

def Job.call (job : Job) : Call := .softDelete job.owner job.ids

def Asks (jobs : List Job) (owner id : String) : Prop := ∃ job ∈ jobs, job.owner = owner ∧ id ∈ job.ids

theorem exists_job_iff {id : String} {p : String → Prop} :
    (∃ job ∈ jobs, id ∈ job.ids ∧ p job.owner) ↔ ∃ owner, Asks jobs owner id ∧ p owner := by
  constructor
  · rintro ⟨job, hjob, hid, hp⟩
    exact ⟨job.owner, ⟨job, hjob, rfl, hid⟩, hp⟩
  · rintro ⟨owner, ⟨job, hjob, rfl, hid⟩, hp⟩
    exact ⟨job, hjob, hid, hp⟩

theorem applyJobs_congr (h : ∀ owner id, Asks jobs owner id ↔ Asks jobs' owner id) :
    c.applyJobs jobs = c.applyJobs jobs' := by
  funext id
  rw [Contents.applyJobs_apply, Contents.applyJobs_apply]
  refine Option.map_congr fun e _ => ?_
  have hnamed : (∃ job ∈ jobs, id ∈ job.ids ∧ e.canBeDeletedBy job.owner = true) ↔
      ∃ job ∈ jobs', id ∈ job.ids ∧ e.canBeDeletedBy job.owner = true := by
    rw [exists_job_iff (p := fun owner => e.canBeDeletedBy owner = true), exists_job_iff
      (p := fun owner => e.canBeDeletedBy owner = true)]
    exact exists_congr fun owner => and_congr_left' (h owner id)
  simp only [hnamed]

end Deletion

theorem Contents.Step.softDelete {c c' : Contents} {requester : String} {ids : List String} {r : Except StoreError Reply}
    (h : c.Step (.softDelete requester ids) r c') :
    r = .ok .done ∧ c' = ids.foldl (fun c id => c.delete requester id) c := by
  cases h
  exact ⟨rfl, rfl⟩

/-- The stores give the same answers, and the same targets are free in them. -/
structure Alike {σ : Type} [Store σ] (s s' : σ) : Prop where
  getById (id : String) : ((Call.getById id).perform.run s).outcome = ((Call.getById id).perform.run s').outcome
  allByOwner (owner : String) :
    ((Call.allByOwner owner).perform.run s).outcome = ((Call.allByOwner owner).perform.run s').outcome
  stats : (Call.stats.perform.run s).outcome = (Call.stats.perform.run s').outcome
  conflict (e : Entry) (id : String) : ((Call.add e).perform.run s).outcome = .error (.createConflict id) ↔
    ((Call.add e).perform.run s').outcome = .error (.createConflict id)

namespace MemoryStore

variable {m m' : MemoryStore}

theorem Consistent.outcome_congr (h : m.Consistent) (h' : m'.Consistent) (heq : m.contents = m'.contents) (call : Call) :
    (call.perform.run m).outcome = (call.perform.run m').outcome := by
  have hstep := (perform_step h call).2
  rw [heq] at hstep
  exact (hstep.unique h'.oneLive (perform_step h' call).2).1

theorem Consistent.alike (h : m.Consistent) (h' : m'.Consistent) (heq : m.contents = m'.contents) : Alike m m' where
  getById id := h.outcome_congr h' heq (.getById id)
  allByOwner owner := h.outcome_congr h' heq (.allByOwner owner)
  stats := h.outcome_congr h' heq .stats
  conflict e id := by rw [h.outcome_congr h' heq (.add e)]

theorem Consistent.apply_jobs (h : m.Consistent) (jobs : List Deletion.Job) :
    (Action.each Call.perform (jobs.map Deletion.Job.call) m).2.Consistent ∧
      (Action.each Call.perform (jobs.map Deletion.Job.call) m).2.contents = m.contents.applyJobs jobs := by
  induction jobs generalizing m with
  | nil => exact ⟨h, rfl⟩
  | cons job jobs ih =>
    obtain ⟨hconsistent, hstep⟩ := perform_step h job.call
    obtain ⟨hconsistent', hcontents⟩ := ih hconsistent
    rw [hstep.softDelete.2] at hcontents
    exact ⟨hconsistent', hcontents⟩

end MemoryStore

namespace Log

variable {log log' : Log}

theorem Indexed.entries_eq (h : log.Indexed) :
    log.entries.toList = (log.entries.toList.map Entry.id).filterMap log.get? := by
  rw [List.filterMap_map]
  have hfound : ∀ e ∈ log.entries.toList, (log.get? ∘ Entry.id) e = some e :=
    fun e he => h.get?_eq_some.mpr ⟨Array.mem_toList_iff.mp he, rfl⟩
  rw [List.filterMap_congr hfound, List.filterMap_some]

/-- What stands under the ids, and the order of these, is all that a log says. -/
theorem Indexed.entries_congr (h : log.Indexed) (h' : log'.Indexed)
    (hids : log.entries.toList.map Entry.id = log'.entries.toList.map Entry.id) (hget : log.get? = log'.get?) :
    log.entries = log'.entries := by
  rw [← Array.toList_inj, h.entries_eq, hids, hget, ← h'.entries_eq]

theorem Indexed.ids_tombstones (h : log.Indexed) (requester : String) (ids : List String) :
    ((log.tombstones requester ids).foldl Log.apply log).entries.toList.map Entry.id = log.entries.toList.map Entry.id := by
  induction ids generalizing log with
  | nil => rfl
  | cons id ids ih =>
    unfold tombstones
    cases he : log.get? id with
    | none => exact ih h
    | some e =>
      dsimp only
      split
      · have hknown : e.markDeleted.id ∈ log.entries.toList.map Entry.id :=
          List.mem_map.mpr ⟨e, Array.mem_toList_iff.mpr (h.get?_eq_some.mp he).1, rfl⟩
        rw [List.foldl_cons, ih (h.apply _), ids_apply log h, if_pos hknown]
      · exact ih h

end Log

namespace FileStore

variable {s s' : FileStore}

theorem Ready.alike (h : s.Ready) (h' : s'.Ready) (hentries : s.logOf.entries = s'.logOf.entries) :
    Alike s s' ∧ ∀ owner, ((Store.allByOwner owner).run s).outcome = ((Store.allByOwner owner).run s').outcome := by
  have hanswers := h.answers.congr s.logOf_indexed s'.logOf_indexed hentries
  have hanswers' := h'.answers
  have hlists : ∀ owner, ((Store.allByOwner owner).run s).outcome = ((Store.allByOwner owner).run s').outcome :=
    fun owner => (hanswers.allByOwner owner).trans (hanswers'.allByOwner owner).symm
  have hmap : ∀ {α : Type} (f : α → Reply) (a : Action StoreError FileStore α),
      (a.run s).outcome = (a.run s').outcome → ((f <$> a).run s).outcome = ((f <$> a).run s').outcome := by
    intro α f a houtcome
    rw [Action.run_map, Action.run_map, houtcome]
  refine ⟨⟨fun id => ?_, fun owner => hmap _ _ (hlists owner), ?_, fun e id => ?_⟩, hlists⟩
  · exact hmap _ _ ((hanswers.getById id).trans (hanswers'.getById id).symm)
  · exact hmap _ _ (hanswers.stats.trans hanswers'.stats.symm)
  · unfold Call.perform
    rw [Action.run_map, Action.run_map, map_eq_error, map_eq_error, hanswers.conflict, hanswers'.conflict]

theorem Ready.apply_job (h : s.Ready) (job : Deletion.Job)
    (hio : ∀ cause, ((Move.call job.call).onFile.run s).outcome ≠ .error (.io cause)) :
    let next := ((Move.call job.call).onFile.run s).state
    next.Ready ∧ next.contents = s.contents.applyJobs [job] ∧
      next.logOf.entries.toList.map Entry.id = s.logOf.entries.toList.map Entry.id := by
  intro next
  have hstepped := h.stepped job.call hio
  obtain ⟨houtcome, hcontents⟩ := hstepped.step.softDelete
  have hends : (Call.softDelete job.owner job.ids).perform.Ends s (.ok .done) next := ⟨houtcome, rfl⟩
  obtain ⟨r₀, hdelete, hr₀⟩ := Action.ends_map.mp hends
  obtain ⟨done, rfl, -⟩ := map_eq_ok.mp hr₀.symm
  have hextended := softDelete_extended h hdelete
  refine ⟨hstepped.ready, hcontents, ?_⟩
  rw [hextended.logOf]
  exact s.logOf_indexed.ids_tombstones job.owner job.ids

theorem Ready.apply_jobs (h : s.Ready) (jobs : List Deletion.Job)
    (hio : ∀ cause, .error (.io cause) ∉ (Action.each Move.onFile (jobs.map fun job => .call job.call) s).1) :
    let last := (Action.each Move.onFile (jobs.map fun job => .call job.call) s).2
    last.Ready ∧ last.contents = s.contents.applyJobs jobs ∧
      last.logOf.entries.toList.map Entry.id = s.logOf.entries.toList.map Entry.id := by
  induction jobs generalizing s with
  | nil => exact ⟨h, rfl, rfl⟩
  | cons job jobs ih =>
    obtain ⟨hready, hcontents, hids⟩ := h.apply_job job fun cause heq => hio cause (heq ▸ List.mem_cons_self)
    obtain ⟨hready', hcontents', hids'⟩ := ih hready fun cause hmem => hio cause (List.mem_cons_of_mem _ hmem)
    rw [hcontents] at hcontents'
    exact ⟨hready', hcontents', hids'.trans hids⟩

end FileStore

/-- Jobs that ask for the same ids on behalf of the same owners leave the same store, in whatever order they come, however
the ids are grouped, and however often one is asked for: after any calls to a memory store that was empty at first, and
in a file store that was opened on any bytes, after any calls and rewritings of its log, as long as the disk does not
fail. The file store even lists the entries in the same order. -/
theorem jobs_commute {jobs jobs' : List Deletion.Job}
    (h : ∀ owner id, Deletion.Asks jobs owner id ↔ Deletion.Asks jobs' owner id) :
    (∀ calls : List Call, Alike
      (Action.each Call.perform (calls ++ jobs.map Deletion.Job.call) MemoryStore.empty).2
      (Action.each Call.perform (calls ++ jobs'.map Deletion.Job.call) MemoryStore.empty).2) ∧
    ∀ (path : String) (d : Disk) (s : FileStore) (moves : List Move), FileStore.Opens path d s →
      let run := fun jobs : List Deletion.Job =>
        Action.each Move.onFile (moves ++ jobs.map fun job => .call job.call) s
      (∀ cause, .error (.io cause) ∉ (run jobs).1) → (∀ cause, .error (.io cause) ∉ (run jobs').1) →
      Alike (run jobs).2 (run jobs').2 ∧
        ∀ owner, ((Store.allByOwner owner).run (run jobs).2).outcome = ((Store.allByOwner owner).run (run jobs').2).outcome := by
  constructor
  · intro calls
    rw [Action.each_append, Action.each_append]
    have hbefore := MemoryStore.each_consistent calls
    obtain ⟨hconsistent, hcontents⟩ := hbefore.apply_jobs jobs
    obtain ⟨hconsistent', hcontents'⟩ := hbefore.apply_jobs jobs'
    refine hconsistent.alike hconsistent' ?_
    rw [hcontents, hcontents', Deletion.applyJobs_congr h]
  · intro path d s moves hopens run hio hio'
    simp only [run, Action.each_append] at hio hio' ⊢
    obtain ⟨hbefore, -⟩ := hopens.rewritten.ready.persists_moves moves
      fun cause hmem => hio cause (List.mem_append_left _ hmem)
    obtain ⟨hready, hcontents, hids⟩ := hbefore.apply_jobs jobs fun cause hmem => hio cause (List.mem_append_right _ hmem)
    obtain ⟨hready', hcontents', hids'⟩ :=
      hbefore.apply_jobs jobs' fun cause hmem => hio' cause (List.mem_append_right _ hmem)
    refine hready.alike hready' ?_
    refine Log.Indexed.entries_congr (FileStore.logOf_indexed _) (FileStore.logOf_indexed _) (hids.trans hids'.symm) ?_
    exact hcontents.trans ((Deletion.applyJobs_congr h).trans hcontents'.symm)

theorem notedDisk_jobs_commute : ∃ s, FileStore.Opens "log" FileStore.notedDisk s ∧
    Alike
      (Action.each Move.onFile ([.call (.add (Entry.create "a" "t" none none))] ++
        [⟨"u", ["a", "b"]⟩, ⟨"v", ["a"]⟩].map fun job : Deletion.Job => .call job.call) s).2
      (Action.each Move.onFile ([.call (.add (Entry.create "a" "t" none none))] ++
        [⟨"v", ["a", "a"]⟩, ⟨"u", ["b"]⟩, ⟨"u", ["a"]⟩].map fun job : Deletion.Job => .call job.call) s).2 := by
  obtain ⟨s, hs⟩ := FileStore.notedDisk_opens
  have hsteady : s.disk.Steady := hs.rewritten.later.steady fun _ h => by cases h
  have hsame : ∀ owner id, Deletion.Asks [⟨"u", ["a", "b"]⟩, ⟨"v", ["a"]⟩] owner id ↔
      Deletion.Asks [⟨"v", ["a", "a"]⟩, ⟨"u", ["b"]⟩, ⟨"u", ["a"]⟩] owner id := by
    intro owner id
    simp only [Deletion.Asks, List.mem_cons, List.not_mem_nil, or_false, exists_eq_or_imp, exists_eq_left]
    tauto
  have hcommute := (jobs_commute hsame).2 "log" _ s [.call (.add (Entry.create "a" "t" none none))] hs
  exact ⟨s, hs, (hcommute (hs.rewritten.ready.moves_of_steady hsteady _) (hs.rewritten.ready.moves_of_steady hsteady _)).1⟩

end ShortLinks
