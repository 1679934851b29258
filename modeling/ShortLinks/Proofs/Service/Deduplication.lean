import ShortLinks.Proofs.Service.Run
import ShortLinks.Proofs.Store.Simulation

/-!
# Targets are shortened once

Over a whole run of a service, whatever its requests are and whenever queued deletions are applied, a target has one
live entry at most, and an id that was answered once leads to its target for good.
-/

set_option autoImplicit false

namespace ShortLinks.Service

variable {σ : Type} [Store σ] {s : Service σ}

def after (s : Service σ) (requests : List Request) : Service σ := (Action.each Request.perform requests s).2

def answer (s : Service σ) (request : Request) : Except ServiceError Response := (request.perform.run s).outcome

theorem after_cons (s : Service σ) (request : Request) (requests : List Request) :
    s.after (request :: requests) = (s.after [request]).after requests := rfl

theorem after_append (s : Service σ) (before rest : List Request) :
    s.after (before ++ rest) = (s.after before).after rest := by
  induction before generalizing s with
  | nil => rfl
  | cons request before ih =>
    rw [List.cons_append, after_cons, after_cons s request before]
    exact ih _

def Stored (s : Service σ) (id : String) (e : Entry) : Prop := ((resolve id).run s).outcome = .ok (some e)

def Deleted (s : Service σ) (id : String) : Prop := ∃ e, s.Stored id e ∧ e.deleted = true

def Vacant (s : Service σ) (target : String) : Prop := ∀ id e, s.Stored id e → e.isLiveFor target = false

def Unused (s : Service σ) (id : String) : Prop := ∀ e, ¬ s.Stored id e

/-- There are so many entries, and the service says so. -/
def Counts (s : Service σ) (n : Nat) : Prop :=
  { id | ∃ e, s.Stored id e }.encard = n ∧ ∃ users, (stats.run s).outcome = .ok ⟨n, users⟩

/-- After the requests of a run, one more shortens a target to an id. -/
def Shortens (s : Service σ) (before : List Request) (request : Request) (target id : String) : Prop :=
  (target, id) ∈ request.creations ((s.after before).answer request)

/-- What it means for every run that starts from here that targets are shortened once. -/
structure Deduplicates (s : Service σ) : Prop where
  /-- An acceptable target is shortened if it has a live entry or the id that is drawn first is free. -/
  shortened {before : List Request} {owner target id : String} (hok : checkTarget target = .ok ())
    (hdrawn : (Identifier.generate (s.after before).shortIdLength (s.after before).random).1 = .ok id)
    (hfree : ∀ e, (s.after before).Stored id e → ¬ (s.after before).Vacant target) :
    ∃ o, (s.after before).answer (.create owner target) = .ok (.outcome o)
  batched {before : List Request} {owner : String} {items : List Submission} {ids : List String}
    (hok : ∀ item ∈ items, checkTarget item.target = .ok ())
    (hdrawn : (Identifier.generateDistinct items.length (s.after before).shortIdLength (s.after before).random).1 =
      .ok ids)
    (hfree : ∀ id ∈ ids, ∀ e, ¬ (s.after before).Stored id e) :
    ∃ entries, (s.after before).answer (.createBatch owner items) = .ok (.entries entries)
  created {before : List Request} {owner target : String} {e : Entry}
    (h : (s.after before).answer (.create owner target) = .ok (.outcome (.created e))) :
    e = Entry.create e.id target (some owner) none ∧ (s.after (before ++ [.create owner target])).Stored e.id e
  answered {before : List Request} {owner : String} {items : List Submission} {entries : List Entry}
    (h : (s.after before).answer (.createBatch owner items) = .ok (.entries entries)) : entries.length = items.length
  within {before : List Request} {request : Request} {target target' id id' : String}
    (h : s.Shortens before request target id) (h' : s.Shortens before request target' id') : id' = id ↔ target' = target
  /-- A target that is shortened again has the id that it had at first, unless that has been deleted. -/
  again {before between : List Request} {request request' : Request} {target id id' : String}
    (h : s.Shortens before request target id) (h' : s.Shortens (before ++ request :: between) request' target id')
    (hlive : ¬ (s.after (before ++ request :: between)).Deleted id) : id' = id
  existing {before between : List Request} {request : Request} {owner target id : String} {o : CreateOutcome}
    (h : s.Shortens before request target id)
    (h' : (s.after (before ++ request :: between)).answer (.create owner target) = .ok (.outcome o))
    (hlive : ¬ (s.after (before ++ request :: between)).Deleted id) :
    ∃ e, o = .existing e ∧ (s.after (before ++ [request])).Stored id e ∧
      (s.after (before ++ request :: between)).Stored id e
  apart {before between : List Request} {request request' : Request} {target target' id id' : String}
    (h : s.Shortens before request target id) (h' : s.Shortens (before ++ request :: between) request' target' id')
    (hne : target' ≠ target) : id' ≠ id
  /-- Entries are added for what is shortened anew, and for nothing else. -/
  counted (before : List Request) (request : Request) : ∃ n, (s.after before).Counts n ∧
    (s.after (before ++ [request])).Counts
      (n + request.growth (s.after before).Vacant ((s.after before).answer request))

variable [LawfulStore σ]

/-- A service whose store is ready and has one live entry for a target at most. -/
structure Sound (s : Service σ) : Prop where
  ready : s.Ready
  oneLive : s.contents.OneLive

variable {before between : List Request} {request : Request} {target id : String} {e : Entry} {n : Nat}

theorem Ready.stored_iff (h : s.Ready) : s.Stored id e ↔ s.contents id = some e := by
  have hfound := (getById_ends h (Action.ends_run (resolve id) s)).2.1
  unfold Stored
  rw [hfound, Except.ok.injEq]

theorem Ready.unused_iff (h : s.Ready) : s.Unused id ↔ s.contents id = none := by
  rw [Option.eq_none_iff_forall_ne_some]
  exact forall_congr' fun e => not_congr h.stored_iff

theorem Ready.vacant_iff (h : s.Ready) : s.Vacant target ↔ ∀ x, ¬ s.contents.LiveFor target x := by
  constructor
  · intro hvacant x hx
    have hnot := hvacant x.id x (h.stored_iff.mpr hx.1)
    rw [hx.2] at hnot
    cases hnot
  · intro hfree id e he
    have hstored := h.stored_iff.mp he
    by_contra hlive
    obtain rfl := LawfulStore.keyed _ h id e hstored
    exact hfree e ⟨hstored, eq_true_of_ne_false hlive⟩

namespace Sound

theorem stored_iff (h : s.Sound) : s.Stored id e ↔ s.contents id = some e := h.ready.stored_iff

theorem vacant_iff (h : s.Sound) : s.Vacant target ↔ ∀ x, ¬ s.contents.LiveFor target x := h.ready.vacant_iff

theorem progress (h : s.Sound) (request : Request) :
    (s.after [request]).Sound ∧ Progress s.contents request (s.answer request) (s.after [request]).contents := by
  obtain ⟨hready, hprogress⟩ := perform_progress h.ready (Action.ends_run request.perform s)
  exact ⟨⟨hready, hprogress.oneLive h.oneLive⟩, hprogress⟩

theorem after (h : s.Sound) (requests : List Request) :
    (s.after requests).Sound ∧ s.contents.Persists (s.after requests).contents := by
  induction requests generalizing s with
  | nil => exact ⟨h, .refl _⟩
  | cons request requests ih =>
    obtain ⟨hsound, hprogress⟩ := h.progress request
    obtain ⟨hsound', hpersists⟩ := ih hsound
    exact ⟨hsound', hprogress.persists.trans hpersists⟩

theorem next (h : s.Sound) (before : List Request) (request : Request) :
    Progress (s.after before).contents request ((s.after before).answer request)
      (s.after (before ++ [request])).contents := by
  rw [after_append]
  exact ((h.after before).1.progress request).2

theorem later (h : s.Sound) (before between : List Request) (request : Request) :
    (s.after (before ++ [request])).contents.Persists (s.after (before ++ request :: between)).contents := by
  rw [List.append_cons before request between, after_append s (before ++ [request]) between]
  exact ((h.after (before ++ [request])).1.after between).2

theorem exists_counts (h : s.Sound) : ∃ n, s.contents.Counts n := by
  obtain ⟨r₀, store, hcall, -, -⟩ := onStore_ends (Action.ends_run stats s)
  obtain ⟨-, -, entries, hlist, -⟩ := LawfulStore.stats_ends h.ready hcall
  exact ⟨entries.length, entries, hlist, rfl⟩

theorem counts_of_contents (h : s.Sound) (hn : s.contents.Counts n) : s.Counts n := by
  obtain ⟨r₀, store, hcall, houtcome, -⟩ := onStore_ends (Action.ends_run stats s)
  obtain ⟨-, -, entries, hlist, rfl⟩ := LawfulStore.stats_ends h.ready hcall
  have hlength : entries.length = n := Contents.Counts.unique ⟨entries, hlist, rfl⟩ hn
  have hids : { id | ∃ e, s.Stored id e } = ((entries.map Entry.id).toFinset : Set String) := by
    ext id
    rw [Set.mem_ofPred_eq, Finset.mem_coe, List.mem_toFinset, List.mem_map]
    constructor
    · rintro ⟨e, he⟩
      have hstored := h.stored_iff.mp he
      have hid := LawfulStore.keyed _ h.ready id e hstored
      exact ⟨e, (hlist.2 e).mpr (hid ▸ hstored), hid⟩
    · rintro ⟨e, he, rfl⟩
      exact ⟨e, h.stored_iff.mpr ((hlist.2 e).mp he)⟩
  constructor
  · rw [hids, Set.encard_coe_eq_coe_finsetCard, List.toFinset_card_of_nodup hlist.1, List.length_map, hlength]
  · refine ⟨(Stats.ofEntries entries).users, ?_⟩
    rw [houtcome, ← hlength]
    rfl

/-- What has been shortened is live afterwards, and as it is then it stays until it is deleted. -/
theorem live_later (h : s.Sound) (hfirst : s.Shortens before request target id)
    (hlive : ¬ (s.after (before ++ request :: between)).Deleted id) :
    ∃ x, x.id = id ∧ (s.after (before ++ [request])).contents.LiveFor target x ∧
      (s.after (before ++ request :: between)).contents.LiveFor target x := by
  obtain ⟨x, hx, rfl⟩ := (h.next before request).live_of_mem hfirst
  have hsound := (h.after (before ++ request :: between)).1
  refine ⟨x, rfl, hx, ?_⟩
  rcases h.later before between request x.id x hx.1 with hsame | hmarked
  · exact ⟨hsame, hx.2⟩
  · exact absurd ⟨x.markDeleted, hsound.stored_iff.mpr hmarked, rfl⟩ hlive

theorem contents_eq_none_iff (h : s.Sound) : s.contents id = none ↔ ∀ e, ¬ s.Stored id e := h.ready.unused_iff.symm

theorem create_of_drawn (h : s.Sound) {owner : String} (hok : checkTarget target = .ok ())
    (hdrawn : (Identifier.generate s.shortIdLength s.random).1 = .ok id)
    (hfree : ∀ e, s.Stored id e → ¬ s.Vacant target) : ∃ o, s.answer (.create owner target) = .ok (.outcome o) := by
  have hends : (Request.create owner target).perform.Ends s (s.answer (.create owner target)) _ := ⟨rfl, rfl⟩
  obtain ⟨r₀, hcall, heq⟩ := Action.ends_map.mp hends
  have hlive : s.contents id ≠ none → ∃ x, s.contents.LiveFor target x := by
    intro hid
    obtain ⟨e, he⟩ := Option.ne_none_iff_exists'.mp hid
    have hnot := hfree e (h.stored_iff.mpr he)
    rw [h.vacant_iff] at hnot
    exact not_forall_not.mp hnot
  obtain ⟨o, rfl⟩ := Service.create_of_drawn h.ready hok hdrawn hlive hcall
  exact ⟨o, heq⟩

theorem createBatch_of_drawn (h : s.Sound) {owner : String} {items : List Submission} {ids : List String}
    (hok : ∀ item ∈ items, checkTarget item.target = .ok ())
    (hdrawn : (Identifier.generateDistinct items.length s.shortIdLength s.random).1 = .ok ids)
    (hfree : ∀ id ∈ ids, ∀ e, ¬ s.Stored id e) :
    ∃ entries, s.answer (.createBatch owner items) = .ok (.entries entries) := by
  have hends : (Request.createBatch owner items).perform.Ends s (s.answer (.createBatch owner items)) _ := ⟨rfl, rfl⟩
  obtain ⟨r₀, hcall, heq⟩ := Action.ends_map.mp hends
  have hnone : ∀ id ∈ ids, s.contents id = none := fun id hid => h.contents_eq_none_iff.mpr (hfree id hid)
  obtain ⟨entries, rfl⟩ := Service.createBatch_of_drawn h.ready hok hdrawn hnone hcall
  exact ⟨entries, heq⟩

theorem deduplicates (h : s.Sound) : s.Deduplicates where
  shortened {before _ _ _} := (h.after before).1.create_of_drawn
  batched {before _ _ _} := (h.after before).1.createBatch_of_drawn
  created {before owner target e} hcreated := by
    have hprogress := h.next before (.create owner target)
    rw [hcreated] at hprogress
    obtain ⟨heq, hstored⟩ := hprogress.eq_create
    exact ⟨heq, (h.after _).1.stored_iff.mpr hstored⟩
  answered {before owner items entries} hanswer := by
    have hprogress := h.next before (.createBatch owner items)
    rw [hanswer] at hprogress
    exact hprogress.length_eq
  within {before request target target' id id'} hfirst hsecond := by
    have honeLive := (h.after (before ++ [request])).1.oneLive
    obtain ⟨x, hx, rfl⟩ := (h.next before request).live_of_mem hfirst
    obtain ⟨y, hy, rfl⟩ := (h.next before request).live_of_mem hsecond
    constructor
    · intro hid
      have hstored := hy.1
      rw [hid, hx.1] at hstored
      cases hstored
      exact hy.target_eq.symm.trans hx.target_eq
    · rintro rfl
      rw [honeLive _ _ _ hx hy]
  again {before between request request' target id id'} hfirst hsecond hlive := by
    obtain ⟨x, rfl, -, hx⟩ := h.live_later hfirst hlive
    have hprogress := h.next (before ++ request :: between) request'
    obtain ⟨y, hy, rfl⟩ := hprogress.live_of_mem hsecond
    have hx' := hprogress.liveFor (Request.creates_of_mem_creations hsecond) hx
    rw [(h.after _).1.oneLive target _ _ hy hx']
  existing {before between request owner target id o} hfirst hsecond hlive := by
    obtain ⟨x, rfl, hx, hx'⟩ := h.live_later hfirst hlive
    have hsound := (h.after (before ++ request :: between)).1
    have hprogress := h.next (before ++ request :: between) (.create owner target)
    rw [hsecond] at hprogress
    exact ⟨x, hprogress.eq_existing hsound.oneLive hx', (h.after _).1.stored_iff.mpr hx.1, hsound.stored_iff.mpr hx'.1⟩
  apart {before between request request' target target' id id'} hfirst hsecond hne hid := by
    obtain ⟨x, hx, rfl⟩ := (h.next before request).live_of_mem hfirst
    have hprogress := h.next (before ++ request :: between) request'
    obtain ⟨y, hy, rfl⟩ := hprogress.live_of_mem hsecond
    have hpersists := (h.later before between request).trans hprogress.persists
    have hstored := hy.1
    rw [hid] at hstored
    have htarget := hpersists.target_eq hx.1 hstored
    rw [hy.target_eq, hx.target_eq] at htarget
    exact hne htarget
  counted before request := by
    have hbefore := (h.after before).1
    obtain ⟨n, hn⟩ := hbefore.exists_counts
    have hvacant : (s.after before).Vacant = fun t => ∀ x, ¬ (s.after before).contents.LiveFor t x :=
      funext fun t => propext hbefore.vacant_iff
    have hgrown := (h.next before request).counts hn
    rw [← hvacant] at hgrown
    exact ⟨n, hbefore.counts_of_contents hn, (h.after _).1.counts_of_contents hgrown⟩

end Sound

def started {σ : Type} (store : σ) (random : Random) (shortIdLength ownerIdLength workers capacity : Nat) : Service σ :=
  let r : Effect ServiceError (Service σ) Unit :=
    start store random shortIdLength ownerIdLength workers capacity
  r.state

theorem started_sound {store : σ} (hready : LawfulStore.Ready store) (hnothing : LawfulStore.contents store = .nothing)
    (random : Random) (shortIdLength ownerIdLength workers capacity : Nat) :
    (started store random shortIdLength ownerIdLength workers capacity).Sound := by
  refine ⟨hready, fun target x y hx => ?_⟩
  have hstored : LawfulStore.contents store x.id = some x := hx.1
  rw [hnothing] at hstored
  cases hstored

/-- Every run of a service deduplicates, whatever its random source draws: on the memory store, and on a file store
that was opened on a missing or an empty file, on a disk that does not fail. -/
theorem runs_deduplicate (random : Random) (shortIdLength ownerIdLength workers capacity : Nat) :
    (started MemoryStore.empty random shortIdLength ownerIdLength workers capacity).Deduplicates ∧
    ∀ (path : String) (d : Disk) (store : FileStore), FileStore.Opens path d store → d.Steady →
      (d.content? path = none ∨ d.content? path = some []) →
      (started store random shortIdLength ownerIdLength workers capacity).Deduplicates := by
  constructor
  · exact (started_sound MemoryStore.empty_consistent MemoryStore.contents_empty _ _ _ _ _).deduplicates
  · intro path d store hopens hsteady hfresh
    have hagree := Agree.opened hopens hfresh
    have hready : LawfulStore.Ready store := ⟨hagree.ready, hopens.rewritten.later.steady hsteady⟩
    exact (started_sound hready (hagree.contents.trans MemoryStore.contents_empty) _ _ _ _ _).deduplicates

theorem blank_runs_deduplicate : ∃ store, FileStore.Opens "log" (Disk.blank []) store ∧
    (started store ⟨fun n => Random.repeated [UInt8.ofNat n], 0, 100⟩ 8 16 2 4).Deduplicates := by
  obtain ⟨store, hopens⟩ := blank_opens
  have hmissing : (Disk.blank []).content? "log" = none := by decide
  have hsteady : (Disk.blank []).Steady := fun _ h => by cases h
  exact ⟨store, hopens, (runs_deduplicate _ 8 16 2 4).2 "log" _ store hopens hsteady (.inl hmissing)⟩

end ShortLinks.Service
