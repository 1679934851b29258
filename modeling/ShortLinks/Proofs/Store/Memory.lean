import ShortLinks.Proofs.Store.Contents
import ShortLinks.Store.Memory

/-!
# The memory store keeps its index

The memory store holds its entries twice: under their ids, and as the index of the targets that are taken. Every
call keeps the two in step (`Consistent`), so the store is lawful.
-/

set_option autoImplicit false

namespace ShortLinks.MemoryStore

variable {s : MemoryStore} {e x : Entry} {id target requester : String}

/-- The index holds exactly the targets of live entries, each with the id of its entry. -/
structure Consistent (s : MemoryStore) : Prop where
  keyed (id : String) (e : Entry) : s.byId[id]? = some e → e.id = id
  liveTargets_iff (target id : String) : s.liveTargets[target]? = some id ↔
    ∃ e, s.byId[id]? = some e ∧ e.id = id ∧ e.deleted = false ∧ e.target = target

def contents (s : MemoryStore) : Contents := fun id => s.byId[id]?

theorem contents_empty : empty.contents = .nothing := by
  funext id
  simp [contents, empty, Contents.nothing]

theorem empty_consistent : empty.Consistent where
  keyed id e h := by simp [empty] at h
  liveTargets_iff target id := by simp [empty]

namespace Consistent

theorem liveTargets_eq_some (h : s.Consistent) :
    s.liveTargets[target]? = some id ↔ ∃ e, s.contents.LiveFor target e ∧ e.id = id := by
  rw [h.liveTargets_iff]
  constructor
  · rintro ⟨e, he, rfl, hlive, htarget⟩
    exact ⟨e, ⟨he, Contents.isLiveFor_iff.mpr ⟨hlive, htarget⟩⟩, rfl⟩
  · rintro ⟨e, he, rfl⟩
    exact ⟨e, he.1, rfl, he.live, he.target_eq⟩

theorem liveTargets_eq_none (h : s.Consistent) :
    s.liveTargets[target]? = none ↔ ∀ e, ¬ s.contents.LiveFor target e := by
  constructor
  · intro hnone e he
    rw [(h.liveTargets_eq_some).mpr ⟨e, he, rfl⟩] at hnone
    cases hnone
  · intro hfree
    cases hid : s.liveTargets[target]? with
    | none => rfl
    | some id =>
      obtain ⟨e, he, -⟩ := h.liveTargets_eq_some.mp hid
      exact absurd he (hfree e)

theorem oneLive (h : s.Consistent) : s.contents.OneLive := by
  intro target e e' he he'
  have hid := h.liveTargets_eq_some.mpr ⟨e, he, rfl⟩
  rw [h.liveTargets_eq_some.mpr ⟨e', he', rfl⟩] at hid
  have heq := he.1
  rw [← Option.some.inj hid, he'.1] at heq
  exact (Option.some.inj heq).symm

theorem liveFor?_eq_some (h : s.Consistent) : s.liveFor? target = some e ↔ s.contents.LiveFor target e := by
  unfold liveFor?
  rw [Option.bind_eq_some_iff]
  constructor
  · rintro ⟨id, hid, he⟩
    obtain ⟨x, hx, rfl⟩ := h.liveTargets_eq_some.mp hid
    have hxe : some x = some e := hx.1.symm.trans he
    cases hxe
    exact hx
  · intro he
    exact ⟨e.id, h.liveTargets_eq_some.mpr ⟨e, he, rfl⟩, he.1⟩

theorem liveFor?_eq_none (h : s.Consistent) : s.liveFor? target = none ↔ ∀ e, ¬ s.contents.LiveFor target e := by
  rw [Option.eq_none_iff_forall_ne_some]
  exact forall_congr' fun e => not_congr h.liveFor?_eq_some

end Consistent

theorem contents_insert (s : MemoryStore) (e : Entry) : (s.insert e).contents = s.contents.store e := by
  funext id
  by_cases hid : id = e.id
  · rw [hid, Contents.store_self]
    simp [contents, insert]
  · rw [Contents.store_other hid]
    simp [contents, insert, Std.HashMap.getElem?_insert, Ne.symm hid]

theorem consistent_iff : s.Consistent ↔ s.contents.Keyed ∧
    ∀ target id, s.liveTargets[target]? = some id ↔ ∃ e, s.contents.LiveFor target e ∧ e.id = id := by
  constructor
  · intro h
    exact ⟨h.keyed, fun target id => h.liveTargets_eq_some⟩
  · rintro ⟨hkeyed, htargets⟩
    refine ⟨hkeyed, fun target id => (htargets target id).trans ?_⟩
    constructor
    · rintro ⟨e, he, rfl⟩
      exact ⟨e, he.1, rfl, he.live, he.target_eq⟩
    · rintro ⟨e, he, rfl, hlive, htarget⟩
      exact ⟨e, ⟨he, Contents.isLiveFor_iff.mpr ⟨hlive, htarget⟩⟩, rfl⟩

/-- A new entry whose target is free may be stored; if it is live the target is its own from now on. -/
theorem Consistent.insert (h : s.Consistent) (hfree : ∀ x, ¬ s.contents.LiveFor e.target x)
    (hid : s.contents e.id = none) : (s.insert e).Consistent := by
  rw [consistent_iff, contents_insert]
  refine ⟨Contents.Keyed.store h.keyed e, fun target id => ?_⟩
  simp only [Contents.liveFor_store_iff hid]
  have htargets : (s.insert e).liveTargets[target]? =
      if e.isLiveFor target then some e.id else s.liveTargets[target]? := by
    by_cases hlive : e.deleted = true
    · simp [MemoryStore.insert, hlive, Entry.isLiveFor]
    · simp [MemoryStore.insert, hlive, Entry.isLiveFor, Std.HashMap.getElem?_insert]
  rw [htargets]
  split
  · next hlive =>
    rw [(Contents.isLiveFor_iff.mp hlive).2] at hfree
    constructor
    · intro heq
      exact ⟨e, .inr ⟨rfl, hlive⟩, Option.some.inj heq⟩
    · rintro ⟨x, hx | ⟨rfl, -⟩, rfl⟩
      · exact absurd hx (hfree x)
      · rfl
  · next hlive =>
    rw [h.liveTargets_eq_some]
    constructor
    · rintro ⟨x, hx, hxid⟩
      exact ⟨x, .inl hx, hxid⟩
    · rintro ⟨x, hx | ⟨-, hlive'⟩, hxid⟩
      · exact ⟨x, hx, hxid⟩
      · exact absurd hlive' hlive

theorem contents_delete (s : MemoryStore) (requester id : String) :
    (s.delete requester id).contents = s.contents.delete requester id := by
  funext other
  by_cases hother : other = id
  · rw [hother, Contents.delete_self]
    unfold delete
    cases hid : s.byId[id]? with
    | none => simp [contents, hid]
    | some e =>
      by_cases hdel : e.canBeDeletedBy requester = true
      · by_cases hdeleted : e.deleted = true
        · simp [contents, hid, hdel, hdeleted, Contents.markDeleted_of_deleted]
        · simp [contents, hid, hdel, hdeleted]
      · simp [contents, hid, hdel]
  · rw [Contents.delete_other hother]
    unfold delete
    cases hid : s.byId[id]? with
    | none => rfl
    | some e =>
      dsimp only
      split
      · simp [contents, Std.HashMap.getElem?_insert, Ne.symm hother]
      · rfl

theorem liveTargets_delete (h : s.Consistent) (he : s.byId[id]? = some e)
    (hdel : e.canBeDeletedBy requester = true) (hlive : e.deleted = false) :
    (s.delete requester id).liveTargets = s.liveTargets.erase e.target := by
  have hown : s.liveTargets[e.target]? = some e.id :=
    (h.liveTargets_iff _ _).mpr ⟨e, (h.keyed id e he).symm ▸ he, rfl, hlive, rfl⟩
  simp [delete, he, hdel, hlive, hown]

theorem delete_eq_self (h : ∀ e, s.byId[id]? = some e → e.canBeDeletedBy requester = true → e.deleted = true) :
    s.delete requester id = s := by
  unfold delete
  split
  · rfl
  · next e he =>
    refine if_neg ?_
    intro hdel
    rw [Bool.and_eq_true, Bool.not_eq_true'] at hdel
    rw [h e he hdel.1] at hdel
    cases hdel.2

theorem Consistent.delete (h : s.Consistent) (requester id : String) : (s.delete requester id).Consistent := by
  rw [consistent_iff, contents_delete]
  refine ⟨Contents.Keyed.delete h.keyed requester id, fun target other => ?_⟩
  simp only [Contents.liveFor_delete_iff]
  by_cases hdel : ∃ e, s.byId[id]? = some e ∧ e.canBeDeletedBy requester = true ∧ e.deleted = false
  · obtain ⟨e, he, hcan, hlive⟩ := hdel
    have hkey := h.keyed id e he
    have hown : s.contents.LiveFor e.target e := ⟨hkey.symm ▸ he, Contents.isLiveFor_iff.mpr ⟨hlive, rfl⟩⟩
    rw [liveTargets_delete h he hcan hlive, Std.HashMap.getElem?_erase]
    by_cases htarget : e.target = target
    · subst htarget
      rw [if_pos (by simp)]
      constructor
      · intro hnone
        cases hnone
      · rintro ⟨x, ⟨hx, hgone⟩, -⟩
        obtain rfl := h.oneLive _ _ _ hown hx
        exact absurd ⟨hkey, hcan⟩ hgone
    · rw [if_neg (by simpa using htarget), h.liveTargets_eq_some]
      constructor
      · rintro ⟨x, hx, hxid⟩
        refine ⟨x, ⟨hx, ?_⟩, hxid⟩
        rintro ⟨hid, -⟩
        have hxe : s.byId[id]? = some x := hid ▸ hx.1
        rw [he] at hxe
        cases hxe
        exact htarget hx.target_eq
      · rintro ⟨x, ⟨hx, -⟩, hxid⟩
        exact ⟨x, hx, hxid⟩
  · have hself : s.delete requester id = s := delete_eq_self fun e he hcan => by
      by_contra hlive
      exact hdel ⟨e, he, hcan, by simpa using hlive⟩
    rw [hself, h.liveTargets_eq_some]
    constructor
    · rintro ⟨x, hx, hxid⟩
      refine ⟨x, ⟨hx, ?_⟩, hxid⟩
      rintro ⟨hid, hcan⟩
      exact hdel ⟨x, hid ▸ hx.1, hcan, hx.live⟩
    · rintro ⟨x, ⟨hx, -⟩, hxid⟩
      exact ⟨x, hx, hxid⟩

theorem foldl_delete (h : s.Consistent) (requester : String) (ids : List String) :
    (ids.foldl (fun s id => s.delete requester id) s).Consistent ∧
      (ids.foldl (fun s id => s.delete requester id) s).contents =
        ids.foldl (fun c id => c.delete requester id) s.contents := by
  induction ids generalizing s with
  | nil => exact ⟨h, rfl⟩
  | cons id ids ih =>
    have hrest := ih (h.delete requester id)
    rw [contents_delete] at hrest
    exact hrest

theorem contains_eq (s : MemoryStore) : s.byId.contains = fun id => (s.contents id).isSome := by
  funext id
  exact Std.HashMap.contains_eq_isSome_getElem?

theorem storeItems_answers {batch : List Entry} (h : s.Consistent)
    (hfree : firstTaken? (fun id => (s.contents id).isSome) batch = none) :
    (s.storeItems batch).2.Consistent ∧
      s.contents.Answers batch (s.storeItems batch).1 (s.storeItems batch).2.contents := by
  induction batch generalizing s with
  | nil => exact ⟨h, .nil _⟩
  | cons item rest ih =>
    obtain ⟨hid, hrest⟩ := firstTaken?_cons_eq_none hfree
    unfold storeItems storeItem
    cases hlive : s.liveFor? item.target with
    | some x =>
      obtain ⟨hconsistent, hanswers⟩ := ih h (firstTaken?_eq_none_of_le (fun id hid => by simp [hid]) hrest)
      exact ⟨hconsistent, .known (h.liveFor?_eq_some.mp hlive) hanswers⟩
    | none =>
      have hnone : s.contents item.id = none := by simpa using hid
      have hfresh := h.liveFor?_eq_none.mp hlive
      have hrestFree : firstTaken? (fun id => ((s.insert item).contents id).isSome) rest = none := by
        rw [contents_insert]
        exact Contents.firstTaken?_store hrest
      obtain ⟨hconsistent, hanswers⟩ := ih (h.insert hfresh hnone) hrestFree
      rw [contents_insert] at hanswers
      exact ⟨hconsistent, .fresh hfresh hnone hanswers⟩

theorem entries_lists (h : s.Consistent) : s.contents.Lists s.entries := by
  have hkey : ∀ p ∈ s.byId.toList, p.2.id = p.1 := by
    rintro ⟨id, e⟩ hp
    exact h.keyed id e (Std.HashMap.mem_toList_iff_getElem?_eq_some.mp hp)
  have hids : s.entries.map Entry.id = s.byId.keys := by
    unfold entries
    rw [List.map_map, ← Std.HashMap.map_fst_toList_eq_keys]
    exact List.map_congr_left hkey
  refine ⟨hids ▸ Std.HashMap.nodup_keys, fun e => ?_⟩
  unfold entries
  rw [List.mem_map]
  constructor
  · rintro ⟨⟨id, x⟩, hp, rfl⟩
    rw [hkey _ hp]
    exact Std.HashMap.mem_toList_iff_getElem?_eq_some.mp hp
  · intro he
    exact ⟨(e.id, e), Std.HashMap.mem_toList_iff_getElem?_eq_some.mpr he, rfl⟩

theorem add_step (h : s.Consistent) (e : Entry) :
    ((Call.add e).perform.run s).state.Consistent ∧
      s.contents.Step (.add e) ((Call.add e).perform.run s).outcome ((Call.add e).perform.run s).state.contents := by
  have hrun : (Call.add e).perform.run s = (Reply.id <$> add e : Action StoreError MemoryStore Reply).run s := rfl
  have hadd : (add e).run s = add e s := rfl
  rw [hrun, Action.run_map, hadd]
  unfold add refusal?
  cases htarget : s.liveTargets[e.target]? with
  | some id =>
    obtain ⟨x, hx, rfl⟩ := h.liveTargets_eq_some.mp htarget
    exact ⟨h, .conflict hx⟩
  | none =>
    have hfree := h.liveTargets_eq_none.mp htarget
    have hknown : s.byId.contains e.id = (s.contents e.id).isSome := congrFun (contains_eq s) e.id
    by_cases hid : s.contents e.id = none
    · rw [if_neg (by simp [hknown, hid])]
      refine ⟨h.insert hfree hid, ?_⟩
      show s.contents.Step _ _ (s.insert e).contents
      rw [contents_insert]
      exact .added hfree hid
    · rw [if_pos (by simp [hknown, Option.isSome_iff_ne_none, hid])]
      exact ⟨h, .taken hfree hid⟩

theorem createBatch_step (h : s.Consistent) (batch : List Entry) :
    ((Call.createBatch batch).perform.run s).state.Consistent ∧
      s.contents.Step (.createBatch batch) ((Call.createBatch batch).perform.run s).outcome
        ((Call.createBatch batch).perform.run s).state.contents := by
  have hrun : (Call.createBatch batch).perform.run s =
      (Reply.stored <$> createBatch batch : Action StoreError MemoryStore Reply).run s := rfl
  have hbatch : (createBatch batch).run s = createBatch batch s := rfl
  rw [hrun, Action.run_map, hbatch]
  unfold createBatch
  rw [contains_eq]
  split
  · next id hid => exact ⟨h, .refused hid⟩
  · next hnone =>
    obtain ⟨hconsistent, hanswers⟩ := storeItems_answers h hnone
    exact ⟨hconsistent, .stored hnone hanswers⟩

theorem perform_step (h : s.Consistent) (call : Call) :
    (call.perform.run s).state.Consistent ∧
      s.contents.Step call (call.perform.run s).outcome (call.perform.run s).state.contents := by
  cases call with
  | add e => exact add_step h e
  | getById id => exact ⟨h, .found id⟩
  | allByOwner owner => exact ⟨h, .listed owner (entries_lists h)⟩
  | createBatch batch => exact createBatch_step h batch
  | softDelete requester ids =>
    obtain ⟨hconsistent, hcontents⟩ := foldl_delete h requester ids
    refine ⟨hconsistent, ?_⟩
    show s.contents.Step _ _ (ids.foldl (fun s id => s.delete requester id) s).contents
    rw [hcontents]
    exact .deleted requester ids
  | stats => exact ⟨h, .counted (entries_lists h)⟩
  | ping => exact ⟨h, .pinged⟩
  | close => exact ⟨h, .closed⟩

theorem perform_quiet (call : Call) : (call.perform : Action StoreError MemoryStore Reply).Quiet := by
  cases call with
  | add e =>
    refine Action.Quiet.map (a := Store.add e) (Action.quiet_of_silent fun s => ?_) _
    show (add e s).events = []
    unfold add
    split <;> rfl
  | createBatch batch =>
    refine Action.Quiet.map (a := Store.createBatch batch) (Action.quiet_of_silent fun s => ?_) _
    show (createBatch batch s).events = []
    unfold createBatch
    split <;> rfl
  | getById | allByOwner | softDelete | stats | ping | close => exact fun _ => rfl

instance : LawfulStore MemoryStore where
  Ready := Consistent
  contents := contents
  keyed _ h := h.keyed
  ready_perform call _ h := (perform_step h call).1
  step_perform call _ h := (perform_step h call).2
  quiet_perform := perform_quiet

theorem each_consistent (calls : List Call) : (Action.each Call.perform calls empty).2.Consistent :=
  Action.each_invariant (P := Consistent) (fun call _ h => (perform_step h call).1) calls empty_consistent

theorem Consistent.conflict_resolves (h : s.Consistent) {call : Call}
    (hconflict : (call.perform.run s).outcome = .error (.createConflict id)) :
    ∃ e x, call = .add e ∧ s.contents.LiveFor e.target x ∧ x.id = id ∧
      (call.perform.run s).state.contents = s.contents := by
  have hstep := (perform_step h call).2
  rw [hconflict] at hstep
  generalize (call.perform.run s).state.contents = c at hstep
  cases hstep with
  | conflict hx => exact ⟨_, _, rfl, hx, rfl, rfl⟩

/-- After any calls to an empty store the index holds the live entries and nothing else, so that a target has at
most one of them, and the id that a refused entry is answered with leads to a live entry for its target. -/
theorem index_of_calls (calls : List Call) :
    let s := (Action.each Call.perform calls empty).2
    s.Consistent ∧
      (∀ (id id' : String) (x y : Entry), s.byId[id]? = some x → s.byId[id']? = some y → x.deleted = false → y.deleted = false →
        x.target = y.target → id = id') ∧
      ∀ (call : Call) (id : String), (call.perform.run s).outcome = .error (.createConflict id) →
        ∃ e x, call = .add e ∧
          ((Call.getById id).perform.run (call.perform.run s).state).outcome = .ok (.entry (some x)) ∧
          x.id = id ∧ x.deleted = false ∧ x.target = e.target := by
  intro s
  have h : s.Consistent := each_consistent calls
  refine ⟨h, ?_, ?_⟩
  · intro id id' x y hx hy hxlive hylive htarget
    have hxid : s.liveTargets[x.target]? = some id := (h.liveTargets_iff _ _).mpr ⟨x, hx, h.keyed id x hx, hxlive, rfl⟩
    have hyid : s.liveTargets[y.target]? = some id' := (h.liveTargets_iff _ _).mpr ⟨y, hy, h.keyed id' y hy, hylive, rfl⟩
    rw [htarget, hyid] at hxid
    exact (Option.some.inj hxid).symm
  · intro call id hconflict
    obtain ⟨e, x, hcall, hx, hid, hsame⟩ := h.conflict_resolves hconflict
    refine ⟨e, x, hcall, ?_, hid, hx.live, hx.target_eq⟩
    show Except.ok (Reply.entry ((call.perform.run s).state.contents id)) = _
    rw [hsame, ← hid, hx.1]

end ShortLinks.MemoryStore
