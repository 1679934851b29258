import ShortLinks.Deletion.Job
import ShortLinks.Proofs.Store.Contents

/-!
# What calls leave of the contents

An entry that is stored stays stored under its id and never changes but to become deleted (`Persists`), and a live
entry stays live as long as nothing is deleted. The number of entries grows with every new one and does not
shrink.
-/

set_option autoImplicit false

namespace ShortLinks.Contents

variable {c c' c'' : Contents} {e x : Entry} {id target requester : String} {n m : Nat} {batch replies : List Entry}

def Persists (c c' : Contents) : Prop := ∀ id e, c id = some e → c' id = some e ∨ c' id = some e.markDeleted

namespace Persists

theorem refl (c : Contents) : c.Persists c := fun _ _ he => .inl he

theorem trans (h : c.Persists c') (h' : c'.Persists c'') : c.Persists c'' := by
  intro id e he
  rcases h id e he with hsame | hmarked
  · exact h' id e hsame
  · have hmarked' := h' id e.markDeleted hmarked
    exact .inr (or_self_iff.mp hmarked')

theorem store (hid : c e.id = none) : c.Persists (c.store e) := by
  intro id x hx
  rw [store_other]
  · exact .inl hx
  · rintro rfl
    rw [hid] at hx
    cases hx

theorem delete (c : Contents) (requester id : String) : c.Persists (c.delete requester id) := by
  intro other x hx
  by_cases hother : other = id
  · subst hother
    rw [delete_self, hx, Option.map_some]
    split
    · exact .inr rfl
    · exact .inl rfl
  · rw [delete_other hother]
    exact .inl hx

theorem deletes (c : Contents) (requester : String) (ids : List String) :
    c.Persists (ids.foldl (fun c id => c.delete requester id) c) := by
  induction ids generalizing c with
  | nil => exact refl c
  | cons id ids ih => exact (delete c requester id).trans (ih _)

theorem answers (hb : Answers c batch replies c') : c.Persists c' := by
  induction hb with
  | nil c => exact refl c
  | known _ _ ih => exact ih
  | fresh _ hid _ ih => exact (store hid).trans ih

theorem step {call : Call} {r : Except StoreError Reply} (h : c.Step call r c') : c.Persists c' := by
  cases h with
  | added _ hid => exact store hid
  | stored _ hb => exact answers hb
  | deleted requester ids => exact deletes c requester ids
  | conflict | taken | found | listed | refused | counted | pinged | closed => exact refl c

theorem target_eq (h : c.Persists c') (he : c id = some e) (hx : c' id = some x) : x.target = e.target := by
  rcases h id e he with hsame | hmarked
  · rw [hsame] at hx
    cases hx
    rfl
  · rw [hmarked] at hx
    cases hx
    rfl

end Persists

theorem LiveFor.answers (h : c.LiveFor target x) (hb : Answers c batch replies c') : c'.LiveFor target x := by
  induction hb with
  | nil => exact h
  | known _ _ ih => exact ih h
  | fresh _ hid _ ih => exact ih (h.store hid)

theorem Answers.length_eq (hb : Answers c batch replies c') : replies.length = batch.length := by
  induction hb with
  | nil => rfl
  | known _ _ ih => exact congrArg Nat.succ ih
  | fresh _ _ _ ih => exact congrArg Nat.succ ih

theorem Answers.live (hb : Answers c batch replies c') (hlive : ∀ item ∈ batch, item.deleted = false) :
    ∀ p ∈ (batch.map Entry.target).zip (replies.map Entry.id), ∃ x, c'.LiveFor p.1 x ∧ x.id = p.2 := by
  induction hb with
  | nil => exact nofun
  | known hx hrest ih =>
    intro p hp
    rcases List.mem_cons.mp hp with rfl | hp
    · exact ⟨_, hx.answers hrest, rfl⟩
    · exact ih (fun item hitem => hlive item (List.mem_cons_of_mem _ hitem)) p hp
  | @fresh c c' item rest answers hfree hid hrest ih =>
    intro p hp
    rcases List.mem_cons.mp hp with rfl | hp
    · have hnew : (c.store item).LiveFor item.target item :=
        ⟨store_self c item, isLiveFor_iff.mpr ⟨hlive item List.mem_cons_self, rfl⟩⟩
      exact ⟨item, hnew.answers hrest, rfl⟩
    · exact ih (fun item hitem => hlive item (List.mem_cons_of_mem _ hitem)) p hp

theorem Answers.keeps (hb : Answers c batch replies c') (hid : c id ≠ none) : c' id = c id := by
  induction hb with
  | nil => rfl
  | known _ _ ih => exact ih hid
  | @fresh c c' item rest answers _ hfree _ ih =>
    have hother : (c.store item) id = c id := store_other fun heq => hid (heq ▸ hfree)
    rw [ih (hother.symm ▸ hid), hother]

theorem Answers.keeps_stored {item : Entry} (hb : Answers (c.store item) batch replies c') : c' item.id = some item := by
  rw [hb.keeps (by rw [store_self]; exact Option.some_ne_none item), store_self]

theorem Answers.born (hb : Answers c batch replies c') (hid : c id = none) (he : c' id = some e) :
    e ∈ batch ∧ e.id = id ∧ (e.target, id) ∈ (batch.map Entry.target).zip (replies.map Entry.id) := by
  induction hb with
  | nil =>
    rw [hid] at he
    cases he
  | known _ _ ih =>
    obtain ⟨hmem, heid, hp⟩ := ih hid he
    exact ⟨List.mem_cons_of_mem _ hmem, heid, List.mem_cons_of_mem _ hp⟩
  | @fresh c c' item rest answers _ _ hrest ih =>
    by_cases hnew : id = item.id
    · subst hnew
      rw [hrest.keeps_stored] at he
      cases he
      exact ⟨List.mem_cons_self, rfl, List.mem_cons_self⟩
    · obtain ⟨hmem, heid, hp⟩ := ih ((store_other hnew).trans hid) he
      exact ⟨List.mem_cons_of_mem _ hmem, heid, List.mem_cons_of_mem _ hp⟩

theorem Answers.live_or_new (hb : Answers c batch replies c') :
    ∀ p ∈ (batch.map Entry.target).zip (replies.map Entry.id), (∃ x, c.LiveFor p.1 x ∧ x.id = p.2) ∨ c p.2 = none := by
  induction hb with
  | nil => exact nofun
  | known hx _ ih =>
    intro p hp
    rcases List.mem_cons.mp hp with rfl | hp
    · exact .inl ⟨_, hx, rfl⟩
    · exact ih p hp
  | @fresh c c' item rest answers hfree hid hrest ih =>
    intro p hp
    rcases List.mem_cons.mp hp with rfl | hp
    · exact .inr hid
    · rcases ih p hp with ⟨x, hx, heq⟩ | hnone
      · rcases hx.of_store with hx | rfl
        · exact .inl ⟨x, hx, heq⟩
        · exact .inr (heq ▸ hid)
      · by_cases hnew : p.2 = item.id
        · rw [hnew]
          exact .inr hid
        · exact .inr ((store_other hnew).symm.trans hnone)

theorem Answers.cons {item answer : Entry} {rest answers : List Entry} (hfirst : Answers c [item] [answer] c')
    (hrest : Answers c' rest answers c'') : Answers c (item :: rest) (answer :: answers) c'' := by
  cases hfirst with
  | known hx hnil =>
    cases hnil
    exact .known hx hrest
  | fresh hfree hid hnil =>
    cases hnil
    exact .fresh hfree hid hrest

theorem Keyed.answers (h : c.Keyed) (hb : Answers c batch replies c') : c'.Keyed := by
  induction hb with
  | nil => exact h
  | known _ _ ih => exact ih h
  | fresh _ _ _ ih => exact ih (h.store _)

theorem Answers.firstTaken?_rest {item : Entry} {rest : List Entry} (hfirst : Answers c [item] replies c')
    (hfree : firstTaken? (fun id => (c id).isSome) (item :: rest) = none) :
    firstTaken? (fun id => (c' id).isSome) rest = none := by
  obtain ⟨-, hrest⟩ := firstTaken?_cons_eq_none hfree
  cases hfirst with
  | known _ hnil =>
    cases hnil
    exact firstTaken?_eq_none_of_le (fun id hid => by simp [hid]) hrest
  | fresh _ _ hnil =>
    cases hnil
    exact firstTaken?_store hrest

theorem Lists.store {entries : List Entry} (h : c.Lists entries) (hid : c e.id = none) :
    (c.store e).Lists (e :: entries) := by
  refine ⟨List.nodup_cons.mpr ⟨?_, h.1⟩, fun x => ?_⟩
  · intro hmem
    obtain ⟨x, hx, heq⟩ := List.mem_map.mp hmem
    rw [h.2 x, heq, hid] at hx
    cases hx
  · rw [List.mem_cons]
    by_cases hx : x.id = e.id
    · rw [hx, store_self, h.2 x, hx, hid]
      simp [eq_comm]
    · rw [store_other hx, h.2 x]
      exact or_iff_right fun heq => hx (congrArg Entry.id heq)

theorem Lists.delete {entries : List Entry} (h : c.Lists entries) (requester id : String) :
    (c.delete requester id).Lists
      (entries.map fun e => if e.id = id ∧ e.canBeDeletedBy requester = true then e.markDeleted else e) := by
  have hkeeps : ∀ e : Entry, (if e.id = id ∧ e.canBeDeletedBy requester = true then e.markDeleted else e).id = e.id := by
    intro e
    split <;> rfl
  refine ⟨?_, fun x => ?_⟩
  · rw [List.map_map]
    have hids : (Entry.id ∘ fun e : Entry => if e.id = id ∧ e.canBeDeletedBy requester = true then e.markDeleted else e) =
        Entry.id := funext hkeeps
    rw [hids]
    exact h.1
  · rw [List.mem_map]
    constructor
    · rintro ⟨e, he, rfl⟩
      rw [hkeeps]
      have hstored := (h.2 e).mp he
      by_cases hid : e.id = id
      · rw [← hid, delete_self, hstored, Option.map_some]
        simp
      · rw [delete_other hid, hstored, if_neg fun hboth => hid hboth.1]
    · intro hx
      by_cases hid : x.id = id
      · rw [hid, delete_self, Option.map_eq_some_iff] at hx
        obtain ⟨e, he, hex⟩ := hx
        have heid : e.id = id := by
          rw [← hid, ← hex]
          split <;> rfl
        refine ⟨e, (h.2 e).mpr (heid ▸ he), ?_⟩
        simpa [heid] using hex
      · rw [delete_other hid] at hx
        exact ⟨x, (h.2 x).mpr hx, if_neg fun hboth => hid hboth.1⟩

def Counts (c : Contents) (n : Nat) : Prop := ∃ entries, c.Lists entries ∧ entries.length = n

theorem Counts.store (h : c.Counts n) (hid : c e.id = none) : (c.store e).Counts (n + 1) := by
  obtain ⟨entries, hlist, rfl⟩ := h
  exact ⟨e :: entries, hlist.store hid, rfl⟩

theorem Counts.deletes (h : c.Counts n) (requester : String) (ids : List String) :
    (ids.foldl (fun c id => c.delete requester id) c).Counts n := by
  induction ids generalizing c with
  | nil => exact h
  | cons id ids ih =>
    obtain ⟨entries, hlist, rfl⟩ := h
    exact ih ⟨_, hlist.delete requester id, List.length_map _⟩

theorem Counts.unique (h : c.Counts n) (h' : c.Counts m) : n = m := by
  obtain ⟨entries, hlist, rfl⟩ := h
  obtain ⟨entries', hlist', rfl⟩ := h'
  exact (hlist.perm hlist').length_eq

theorem Counts.answers (h : c.Counts n) (hb : Answers c batch replies c') (hlive : ∀ item ∈ batch, item.deleted = false)
    {vacant : List String} (hnodup : vacant.Nodup)
    (hvacant : ∀ t, t ∈ vacant ↔ t ∈ batch.map Entry.target ∧ ∀ x, ¬ c.LiveFor t x) : c'.Counts (n + vacant.length) := by
  induction hb generalizing n vacant with
  | nil =>
    have hnil : vacant = [] := List.eq_nil_iff_forall_not_mem.mpr fun t ht => by
      cases ((hvacant t).mp ht).1
    rw [hnil]
    exact h
  | @known c c' item x rest answers hx hrest ih =>
    refine ih h (fun e he => hlive e (List.mem_cons_of_mem _ he)) hnodup fun t => ?_
    rw [hvacant, List.map_cons, List.mem_cons]
    constructor
    · rintro ⟨rfl | ht, hfree⟩
      · exact absurd hx (hfree x)
      · exact ⟨ht, hfree⟩
    · rintro ⟨ht, hfree⟩
      exact ⟨.inr ht, hfree⟩
  | @fresh c c' item rest answers hfree hid hrest ih =>
    have hitem : item.isLiveFor item.target = true := isLiveFor_iff.mpr ⟨hlive item List.mem_cons_self, rfl⟩
    have hmem : item.target ∈ vacant := (hvacant _).mpr ⟨List.mem_cons_self, hfree⟩
    have hlater := ih (h.store hid) (fun e he => hlive e (List.mem_cons_of_mem _ he)) (hnodup.erase item.target)
      fun t => by
        rw [hnodup.mem_erase_iff, hvacant, List.map_cons, List.mem_cons]
        simp only [liveFor_store_iff hid]
        constructor
        · rintro ⟨hne, rfl | ht, hnone⟩
          · exact absurd rfl hne
          · refine ⟨ht, ?_⟩
            rintro x (hx | ⟨rfl, hx⟩)
            · exact hnone x hx
            · exact hne (isLiveFor_iff.mp hx).2.symm
        · rintro ⟨ht, hnone⟩
          refine ⟨?_, .inr ht, fun x hx => hnone x (.inl hx)⟩
          rintro rfl
          exact hnone item (.inr ⟨rfl, hitem⟩)
    have hlength := List.length_erase_of_mem hmem
    have hpos := List.length_pos_of_mem hmem
    rw [show n + vacant.length = n + 1 + (vacant.erase item.target).length by omega]
    exact hlater

def applyJobs (c : Contents) (jobs : List Deletion.Job) : Contents :=
  jobs.foldl (fun c job => job.ids.foldl (fun c id => c.delete job.owner id) c) c

theorem applyJobs_append (c : Contents) (jobs jobs' : List Deletion.Job) :
    c.applyJobs (jobs ++ jobs') = (c.applyJobs jobs).applyJobs jobs' := List.foldl_append

/-- An entry is deleted for the requesters who may delete it, however often and in whatever order they ask. -/
theorem deletes_apply (c : Contents) (requester : String) (ids : List String) (id : String) :
    ids.foldl (fun c id => c.delete requester id) c id =
      (c id).map fun e => if id ∈ ids ∧ e.canBeDeletedBy requester = true then e.markDeleted else e := by
  induction ids generalizing c with
  | nil => simp
  | cons first ids ih =>
    rw [List.foldl_cons, ih]
    by_cases hid : id = first
    · rw [hid, delete_self, Option.map_map]
      refine Option.map_congr fun e _ => ?_
      by_cases hcan : e.canBeDeletedBy requester = true
      · simp [hcan, Entry.markDeleted]
      · simp [hcan]
    · rw [delete_other hid]
      simp [hid]

theorem applyJobs_apply (c : Contents) (jobs : List Deletion.Job) (id : String) : c.applyJobs jobs id =
    (c id).map fun e =>
      if ∃ job ∈ jobs, id ∈ job.ids ∧ e.canBeDeletedBy job.owner = true then e.markDeleted else e := by
  induction jobs generalizing c with
  | nil => simp [applyJobs]
  | cons job jobs ih =>
    show Contents.applyJobs (job.ids.foldl (fun c id => c.delete job.owner id) c) jobs id = _
    rw [ih, deletes_apply, Option.map_map]
    refine Option.map_congr fun e _ => ?_
    by_cases hfirst : id ∈ job.ids ∧ e.canBeDeletedBy job.owner = true
    · simp [hfirst, Entry.markDeleted]
    · simp [hfirst]

variable (jobs : List Deletion.Job)

theorem Persists.applyJobs (c : Contents) : c.Persists (c.applyJobs jobs) := by
  induction jobs generalizing c with
  | nil => exact refl c
  | cons job jobs ih => exact (deletes c job.owner job.ids).trans (ih _)

theorem OneLive.applyJobs (h : c.OneLive) : (c.applyJobs jobs).OneLive := by
  induction jobs generalizing c with
  | nil => exact h
  | cons job jobs ih => exact ih (h.deletes job.owner job.ids)

theorem Counts.applyJobs (h : c.Counts n) : (c.applyJobs jobs).Counts n := by
  induction jobs generalizing c with
  | nil => exact h
  | cons job jobs ih => exact ih (h.deletes job.owner job.ids)

end ShortLinks.Contents
