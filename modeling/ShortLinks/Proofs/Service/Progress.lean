import ShortLinks.Proofs.Service.Request
import ShortLinks.Proofs.Store.History

/-!
# What requests do to the contents

`Progress` says what each request answers and how it leaves the contents of the store, whatever ids are drawn. No
request lets a target have two live entries, and none but the creating ones adds entries.
-/

set_option autoImplicit false

namespace ShortLinks.Service

/-- What a request answers to given contents, and what it leaves. -/
inductive Progress (c : Contents) : Request → Except ServiceError Response → Contents → Prop where
  | created {owner target id : String} (hfree : ∀ x, ¬ c.LiveFor target x) (hid : c id = none) :
      Progress c (.create owner target) (.ok (.outcome (.created (Entry.create id target (some owner) none))))
        (c.store (Entry.create id target (some owner) none))
  | existing {owner target : String} {x : Entry} (hx : c.LiveFor target x) :
      Progress c (.create owner target) (.ok (.outcome (.existing x))) c
  | stored {owner : String} {items : List Submission} {ids : List String} {answers : List Entry} {c' : Contents}
      (hlength : ids.length = items.length) (hb : c.Answers (batchEntries owner items ids) answers c') :
      Progress c (.createBatch owner items) (.ok (.entries answers)) c'
  | failed {request : Request} (e : ServiceError) : Progress c request (.error e) c
  | kept {request : Request} {r : Except ServiceError Response} (h : request.creates = false) : Progress c request r c
  | deleted {request : Request} {r : Except ServiceError Response} (h : request.deletes = true)
      (jobs : List Deletion.Job) : Progress c request r (c.applyJobs jobs)

variable {owner : String} {items : List Submission} {ids : List String}

theorem live_of_mem_batchEntries : ∀ e ∈ batchEntries owner items ids, e.deleted = false := by
  intro e he
  obtain ⟨p, -, rfl⟩ := List.mem_map.mp he
  rfl

theorem length_batchEntries (h : ids.length = items.length) : (batchEntries owner items ids).length = items.length := by
  rw [batchEntries, List.length_map, List.length_zip, h, Nat.min_self]

theorem map_target_batchEntries (h : ids.length = items.length) :
    (batchEntries owner items ids).map Entry.target = items.map Submission.target := by
  have hfirst : (items.zip ids).map Prod.fst = items := List.map_fst_zip (by omega)
  calc (batchEntries owner items ids).map Entry.target
      = ((items.zip ids).map Prod.fst).map Submission.target := by
        rw [batchEntries, List.map_map, List.map_map]
        rfl
    _ = items.map Submission.target := by rw [hfirst]

theorem map_id_batchEntries (h : ids.length = items.length) : (batchEntries owner items ids).map Entry.id = ids := by
  have hsecond : (items.zip ids).map Prod.snd = ids := List.map_snd_zip (by omega)
  calc (batchEntries owner items ids).map Entry.id
      = (items.zip ids).map Prod.snd := by
        rw [batchEntries, List.map_map]
        rfl
    _ = ids := hsecond

namespace Progress

variable {c c' : Contents} {request : Request} {r : Except ServiceError Response} {target id : String} {x : Entry}

theorem persists (h : Progress c request r c') : c.Persists c' := by
  cases h with
  | created _ hid => exact .store hid
  | stored _ hb => exact .answers hb
  | deleted _ jobs => exact .applyJobs jobs c
  | existing | failed | kept => exact .refl c

theorem oneLive (h : Progress c request r c') (hc : c.OneLive) : c'.OneLive := by
  cases h with
  | created hfree => exact hc.store hfree
  | stored _ hb => exact hc.answers hb
  | deleted _ jobs => exact hc.applyJobs jobs
  | existing | failed | kept => exact hc

theorem liveFor (h : Progress c request r c') (hcreates : request.creates = true) (hx : c.LiveFor target x) :
    c'.LiveFor target x := by
  cases h with
  | created _ hid => exact hx.store hid
  | stored _ hb => exact hx.answers hb
  | deleted hdeletes =>
    rw [Request.creates_of_deletes hdeletes] at hcreates
    cases hcreates
  | existing | failed | kept => exact hx

theorem live_of_mem (h : Progress c request r c') (hp : (target, id) ∈ request.creations r) :
    ∃ x, c'.LiveFor target x ∧ x.id = id := by
  cases h with
  | created hfree hid =>
    cases List.mem_singleton.mp hp
    exact ⟨_, ⟨Contents.store_self c _, Contents.isLiveFor_iff.mpr ⟨rfl, rfl⟩⟩, rfl⟩
  | existing hx =>
    cases List.mem_singleton.mp hp
    exact ⟨_, hx, rfl⟩
  | stored hlength hb =>
    rw [Request.creations, ← map_target_batchEntries hlength] at hp
    exact hb.live live_of_mem_batchEntries _ hp
  | failed => cases request <;> cases hp
  | kept hreads => exact absurd hp (Request.not_mem_creations hreads)
  | deleted hdeletes => exact absurd hp (Request.not_mem_creations (Request.creates_of_deletes hdeletes))

theorem live_or_new (h : Progress c request r c') (hp : (target, id) ∈ request.creations r) :
    (∃ x, c.LiveFor target x ∧ x.id = id) ∨ c id = none := by
  cases h with
  | created hfree hid =>
    cases List.mem_singleton.mp hp
    exact .inr hid
  | existing hx =>
    cases List.mem_singleton.mp hp
    exact .inl ⟨_, hx, rfl⟩
  | stored hlength hb =>
    rw [Request.creations, ← map_target_batchEntries hlength] at hp
    exact hb.live_or_new _ hp
  | failed => cases request <;> cases hp
  | kept hreads => exact absurd hp (Request.not_mem_creations hreads)
  | deleted hdeletes => exact absurd hp (Request.not_mem_creations (Request.creates_of_deletes hdeletes))

/-- An entry that was not there before is one that the request has shortened something to, with the owner of the
request. -/
theorem born {e : Entry} (h : Progress c request r c') (hid : c id = none) (he : c' id = some e) :
    (e.target, id) ∈ request.creations r ∧ e = Entry.create id e.target (some request.owner) e.correlation := by
  cases h with
  | @created owner target new =>
    by_cases hnew : id = new
    · subst hnew
      have hself : c.store (Entry.create id target (some owner) none) id = some _ := Contents.store_self c _
      rw [hself] at he
      cases he
      exact ⟨List.mem_singleton_self _, rfl⟩
    · rw [Contents.store_other hnew, hid] at he
      cases he
  | @stored owner items ids answers _ hlength hb =>
    obtain ⟨hmem, rfl, hp⟩ := hb.born hid he
    rw [map_target_batchEntries hlength] at hp
    obtain ⟨p, -, rfl⟩ := List.mem_map.mp hmem
    exact ⟨hp, rfl⟩
  | deleted _ jobs =>
    rw [Contents.applyJobs_apply, hid] at he
    cases he
  | existing | failed | kept =>
    rw [hid] at he
    cases he

theorem keeps (h : Progress c request r c') (hdeletes : request.deletes = false) (hid : c id ≠ none) :
    c' id = c id := by
  cases h with
  | created _ hnew => exact Contents.store_other fun heq => hid (heq ▸ hnew)
  | stored _ hb => exact hb.keeps hid
  | deleted hdel =>
    rw [hdeletes] at hdel
    cases hdel
  | existing | failed | kept => rfl

theorem length_eq {entries : List Entry}
    (h : Progress c (.createBatch owner items) (.ok (.entries entries)) c') : entries.length = items.length := by
  cases h with
  | stored hlength hb => exact hb.length_eq.trans (length_batchEntries hlength)
  | kept hreads => cases hreads
  | deleted hdeletes => cases hdeletes

theorem eq_existing {o : CreateOutcome}
    (h : Progress c (.create owner target) (.ok (.outcome o)) c') (hc : c.OneLive) (hx : c.LiveFor target x) :
    o = .existing x := by
  cases h with
  | created hfree => exact absurd hx (hfree x)
  | existing hy => rw [hc target _ _ hy hx]
  | kept hreads => cases hreads
  | deleted hdeletes => cases hdeletes

theorem isNew_iff {o : CreateOutcome} (h : Progress c (.create owner target) (.ok (.outcome o)) c') :
    o.isNew = true ↔ ∀ x, ¬ c.LiveFor target x := by
  cases h with
  | created hfree => exact iff_of_true rfl hfree
  | existing hx => exact iff_of_false Bool.false_ne_true fun hfree => hfree _ hx
  | kept hreads => cases hreads
  | deleted hdeletes => cases hdeletes

theorem eq_create {e : Entry} (h : Progress c (.create owner target) (.ok (.outcome (.created e))) c') :
    e = Entry.create e.id target (some owner) none ∧ c' e.id = some e := by
  cases h with
  | created => exact ⟨rfl, Contents.store_self c _⟩
  | kept hreads => cases hreads
  | deleted hdeletes => cases hdeletes

theorem counts {n : Nat} (h : Progress c request r c') (hn : c.Counts n) :
    c'.Counts (n + request.growth (fun t => ∀ x, ¬ c.LiveFor t x) r) := by
  cases h with
  | created _ hid => exact hn.store hid
  | existing => exact hn
  | @stored owner items ids answers c' hlength hb =>
    let vacant := { t | t ∈ items.map Submission.target ∧ ∀ x, ¬ c.LiveFor t x }
    have hfinite : vacant.Finite := (List.finite_toSet (items.map Submission.target)).subset fun t ht => ht.1
    have hcounts := hn.answers hb live_of_mem_batchEntries hfinite.toFinset.nodup_toList fun t => by
      rw [Finset.mem_toList, hfinite.mem_toFinset, map_target_batchEntries hlength]
      rfl
    rw [Finset.length_toList, ← Set.ncard_eq_toFinset_card vacant hfinite] at hcounts
    exact hcounts
  | failed => cases request <;> exact hn
  | kept hreads =>
    rw [Request.growth_eq_zero hreads]
    exact hn
  | deleted hdeletes jobs =>
    rw [Request.growth_eq_zero (Request.creates_of_deletes hdeletes)]
    exact hn.applyJobs jobs

end Progress

end ShortLinks.Service
