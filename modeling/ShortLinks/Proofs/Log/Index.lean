import Mathlib.Data.List.Nodup
import ShortLinks.Proofs.Store.Contents
import ShortLinks.Store.Log

/-!
# The entries of a log and where they stand

A log keeps its entries in the order of their first records, and for each id the position of its entry. Taking in
records keeps the two in step (`Indexed`), so what a log answers can be read off its entries alone.
-/

set_option autoImplicit false

namespace ShortLinks.Log

variable {log : Log} {e r x : Entry} {id target requester : String}

/-- The index knows the position of every entry, and nothing else. -/
def Indexed (log : Log) : Prop :=
  ∀ (id : String) (p : Nat), log.positions[id]? = some p ↔ ∃ e : Entry, log.entries[p]? = some e ∧ e.id = id

theorem empty_indexed : empty.Indexed := by
  intro id p
  simp [empty]

theorem get?_empty (id : String) : empty.get? id = none := by
  simp [empty, get?]

theorem Indexed.position_eq_none (h : log.Indexed) (hid : log.positions[id]? = none) (e : Entry) (he : e ∈ log.entries) :
    e.id ≠ id := by
  rintro rfl
  obtain ⟨p, hp⟩ := Array.mem_iff_getElem?.mp he
  rw [(h e.id p).mpr ⟨e, hp, rfl⟩] at hid
  cases hid

theorem Indexed.nodup (h : log.Indexed) : (log.entries.toList.map Entry.id).Nodup := by
  rw [List.nodup_iff_injective_getElem]
  rintro ⟨p, hp⟩ ⟨q, hq⟩ heq
  rw [List.length_map, Array.length_toList] at hp hq
  simp only [List.getElem_map, Array.getElem_toList] at heq
  have hpos := (h _ p).mpr ⟨log.entries[p], Array.getElem?_eq_getElem hp, rfl⟩
  rw [heq, (h _ q).mpr ⟨log.entries[q], Array.getElem?_eq_getElem hq, rfl⟩] at hpos
  exact Fin.ext (Option.some.inj hpos).symm

theorem Indexed.get?_eq_some (h : log.Indexed) : log.get? id = some e ↔ e ∈ log.entries ∧ e.id = id := by
  unfold get?
  rw [Option.bind_eq_some_iff, Array.mem_iff_getElem?]
  constructor
  · rintro ⟨p, hp, he⟩
    obtain ⟨x, hx, hid⟩ := (h id p).mp hp
    rw [he] at hx
    cases hx
    exact ⟨⟨p, he⟩, hid⟩
  · rintro ⟨⟨p, hp⟩, hid⟩
    exact ⟨p, (h id p).mpr ⟨e, hp, hid⟩, hp⟩

theorem Indexed.get?_eq_none (h : log.Indexed) : log.get? id = none ↔ log.positions[id]? = none := by
  unfold get?
  constructor
  · intro hnone
    cases hp : log.positions[id]? with
    | none => rfl
    | some p =>
      obtain ⟨x, hx, -⟩ := (h id p).mp hp
      rw [hp, Option.bind_some, hx] at hnone
      cases hnone
  · intro hp
    rw [hp, Option.bind_none]

theorem Indexed.contains_eq (h : log.Indexed) : log.contains = fun id => (log.get? id).isSome := by
  funext id
  unfold contains
  rw [Std.HashMap.contains_eq_isSome_getElem?, Bool.eq_iff_iff, Option.isSome_iff_ne_none, Option.isSome_iff_ne_none,
    ne_eq, ne_eq, h.get?_eq_none]

theorem Indexed.keyed (h : log.Indexed) : Contents.Keyed log.get? :=
  fun _ _ he => (h.get?_eq_some.mp he).2

theorem Indexed.lists (h : log.Indexed) : Contents.Lists log.get? log.entries.toList :=
  ⟨h.nodup, fun e => by rw [h.get?_eq_some, Array.mem_toList_iff]; exact (and_iff_left rfl).symm⟩

theorem Indexed.get?_congr {log' : Log} (h : log.Indexed) (h' : log'.Indexed) (heq : log.entries = log'.entries) :
    log.get? = log'.get? := by
  funext id
  refine Option.ext fun e => ?_
  rw [h.get?_eq_some, h'.get?_eq_some, heq]

theorem Indexed.liveFor?_eq_some (h : log.Indexed) (he : log.liveFor? target = some e) :
    Contents.LiveFor log.get? target e := by
  unfold liveFor? at he
  have hlive := Array.find?_some he
  exact ⟨h.get?_eq_some.mpr ⟨Array.mem_of_find?_eq_some he, rfl⟩, hlive⟩

theorem Indexed.liveFor?_eq_none (h : log.Indexed) (hnone : log.liveFor? target = none) (e : Entry) :
    ¬ Contents.LiveFor log.get? target e := by
  rintro ⟨he, hlive⟩
  exact Array.find?_eq_none.mp hnone e (h.get?_eq_some.mp he).1 hlive

theorem apply_fresh (hid : log.positions[r.id]? = none) : log.apply r = { log with
    positions := log.positions.insert r.id log.entries.size
    entries := log.entries.push r } := by
  unfold apply
  rw [hid]

theorem apply_known {p : Nat} (hid : log.positions[r.id]? = some p) : log.apply r =
    if r.deleted then { log with entries := log.entries.modify p Entry.markDeleted } else log := by
  unfold apply
  rw [hid]

theorem getElem?_modify_markDeleted (entries : Array Entry) (p q : Nat) :
    (entries.modify p Entry.markDeleted)[q]? = entries[q]?.map fun e => if p = q then e.markDeleted else e := by
  rw [Array.getElem?_modify]
  split
  · rfl
  · exact Option.map_id'.symm

theorem Indexed.apply (h : log.Indexed) (r : Entry) : (log.apply r).Indexed := by
  cases hid : log.positions[r.id]? with
  | none =>
    rw [apply_fresh hid]
    intro id p
    show (log.positions.insert r.id log.entries.size)[id]? = some p ↔ ∃ e, (log.entries.push r)[p]? = some e ∧ e.id = id
    rw [Std.HashMap.getElem?_insert, Array.getElem?_push]
    by_cases heq : r.id = id
    · rw [if_pos (beq_iff_eq.mpr heq)]
      constructor
      · intro hp
        rw [if_pos (Option.some.inj hp).symm]
        exact ⟨r, rfl, heq⟩
      · rintro ⟨e, he, rfl⟩
        split at he
        · next hp => rw [hp]
        · exact absurd heq.symm (h.position_eq_none hid e (Array.mem_iff_getElem?.mpr ⟨p, he⟩))
    · rw [if_neg (fun hb => heq (beq_iff_eq.mp hb)), h id p]
      split
      · next hp =>
        have hout : log.entries[p]? = none := by
          rw [hp]
          exact Array.getElem?_eq_none le_rfl
        rw [hout]
        constructor
        · rintro ⟨e, he, -⟩
          cases he
        · rintro ⟨e, he, hid'⟩
          cases he
          exact absurd hid' heq
      · rfl
  | some position =>
    rw [apply_known hid]
    split
    · intro id p
      show log.positions[id]? = some p ↔ ∃ e, (log.entries.modify position Entry.markDeleted)[p]? = some e ∧ e.id = id
      rw [h id p, getElem?_modify_markDeleted]
      constructor
      · rintro ⟨e, he, heq⟩
        rw [he]
        refine ⟨_, rfl, ?_⟩
        split <;> exact heq
      · rintro ⟨x, hx, heq⟩
        obtain ⟨e, he, rfl⟩ := Option.map_eq_some_iff.mp hx
        refine ⟨e, he, ?_⟩
        split at heq <;> exact heq
    · exact h

theorem Indexed.applyAll (h : log.Indexed) (records : List Entry) : (records.foldl Log.apply log).Indexed := by
  induction records generalizing log with
  | nil => exact h
  | cons r records ih => exact ih (h.apply r)

theorem Indexed.get?_apply_fresh (h : log.Indexed) (hid : log.get? r.id = none) :
    (log.apply r).get? = Contents.store log.get? r := by
  have hpos := h.get?_eq_none.mp hid
  funext id
  refine Option.ext fun e => ?_
  rw [(h.apply r).get?_eq_some, apply_fresh hpos]
  show e ∈ log.entries.push r ∧ e.id = id ↔ _
  rw [Array.mem_push]
  by_cases heq : id = r.id
  · rw [heq, Contents.store_self, Option.some_inj]
    constructor
    · rintro ⟨he | rfl, hid'⟩
      · exact absurd hid' (h.position_eq_none hpos e he)
      · rfl
    · rintro rfl
      exact ⟨.inr rfl, rfl⟩
  · rw [Contents.store_other heq, h.get?_eq_some]
    constructor
    · rintro ⟨he | rfl, hid'⟩
      · exact ⟨he, hid'⟩
      · exact absurd hid'.symm heq
    · rintro ⟨he, hid'⟩
      exact ⟨.inl he, hid'⟩

/-- A later record of an id changes nothing but that it may delete the entry. -/
theorem Indexed.get?_apply_known (h : log.Indexed) (hid : log.get? r.id ≠ none) : (log.apply r).get? =
    fun id => (log.get? id).map fun e => if e.id = r.id ∧ r.deleted = true then e.markDeleted else e := by
  obtain ⟨p, hp⟩ := Option.ne_none_iff_exists'.mp fun hnone => hid (h.get?_eq_none.mpr hnone)
  rw [apply_known hp]
  obtain ⟨x, hx, hxid⟩ := (h r.id p).mp hp
  split
  · next hdel =>
    funext id
    show (log.positions[id]?.bind fun q => (log.entries.modify p Entry.markDeleted)[q]?) =
      (log.positions[id]?.bind fun q => log.entries[q]?).map _
    cases hq : log.positions[id]? with
    | none => rfl
    | some q =>
      obtain ⟨y, hy, hyid⟩ := (h id q).mp hq
      rw [Option.bind_some, Option.bind_some, getElem?_modify_markDeleted, hy, Option.map_some, Option.map_some]
      congr 1
      by_cases hpq : p = q
      · subst hpq
        rw [hx] at hy
        cases hy
        rw [if_pos rfl, if_pos ⟨hxid, hdel⟩]
      · rw [if_neg hpq, if_neg]
        rintro ⟨hyr, -⟩
        rw [← hyid, hyr, hp] at hq
        exact hpq (Option.some.inj hq)
  · next hdel =>
    funext id
    simp [hdel]

theorem Indexed.get?_apply_markDeleted (h : log.Indexed) (he : log.get? e.id = some e) :
    (log.apply e.markDeleted).get? = Contents.store log.get? e.markDeleted := by
  have hknown : log.get? e.markDeleted.id ≠ none := he ▸ Option.some_ne_none e
  rw [h.get?_apply_known hknown]
  funext id
  by_cases hid : id = e.markDeleted.id
  · have hfound : log.get? e.markDeleted.id = some e := he
    rw [hid, hfound, Contents.store_self, Option.map_some, if_pos ⟨rfl, rfl⟩]
  · rw [Contents.store_other hid]
    refine (Option.map_congr fun x hx => ?_).trans Option.map_id'
    rw [if_neg]
    rintro ⟨hxid, -⟩
    exact hid ((h.keyed id x hx).symm.trans hxid)

theorem Indexed.get?_tombstone (h : log.Indexed) (he : log.get? id = some e)
    (hdel : e.canBeDeletedBy requester = true) :
    (log.apply e.markDeleted).get? = Contents.delete log.get? requester id := by
  obtain rfl : e.id = id := h.keyed id e he
  rw [h.get?_apply_markDeleted he, Contents.delete, he, Option.map_some, if_pos hdel]
  rfl

theorem Indexed.get?_eq_none_of_refusal?_eq_none (h : log.Indexed) (hfree : log.refusal? e = none) :
    log.get? e.id = none := by
  unfold refusal? at hfree
  rw [h.contains_eq] at hfree
  cases hlive : log.liveFor? e.target with
  | some x => simp [hlive] at hfree
  | none => simpa [hlive] using hfree

theorem Indexed.firstTaken?_apply {item : Entry} {rest : List Entry} (h : log.Indexed) (hid : log.get? item.id = none)
    (hrest : firstTaken? (fun id => (log.get? id).isSome || id == item.id) rest = none) :
    firstTaken? (fun id => ((log.apply item).get? id).isSome) rest = none := by
  rw [h.get?_apply_fresh hid]
  exact Contents.firstTaken?_store hrest

/-- The records of a batch, taken in one after the other, leave what the batch answers. -/
theorem Indexed.storeItems_answers {batch : List Entry} (h : log.Indexed)
    (hfree : firstTaken? (fun id => (log.get? id).isSome) batch = none) :
    Contents.Answers log.get? batch (log.storeItems batch).1 ((log.storeItems batch).2.foldl Log.apply log).get? := by
  induction batch generalizing log with
  | nil => exact .nil _
  | cons item rest ih =>
    obtain ⟨hid, hrest⟩ := firstTaken?_cons_eq_none hfree
    unfold storeItems
    cases hlive : log.liveFor? item.target with
    | some x =>
      exact .known (h.liveFor?_eq_some hlive)
        (ih h (firstTaken?_eq_none_of_le (fun id hid => by simp [hid]) hrest))
    | none =>
      have hnone : log.get? item.id = none := by simpa using hid
      have hanswers := ih (h.apply item) (h.firstTaken?_apply hnone hrest)
      rw [h.get?_apply_fresh hnone] at hanswers
      exact .fresh (h.liveFor?_eq_none hlive) hnone hanswers

theorem Indexed.tombstones_deletes (h : log.Indexed) (requester : String) (ids : List String) :
    ((log.tombstones requester ids).foldl Log.apply log).get? =
      ids.foldl (fun c id => Contents.delete c requester id) log.get? := by
  induction ids generalizing log with
  | nil => rfl
  | cons id ids ih =>
    unfold tombstones
    rw [List.foldl_cons]
    cases he : log.get? id with
    | none =>
      rw [Contents.delete_eq_self fun e hx => by rw [he] at hx; cases hx]
      exact ih h
    | some e =>
      dsimp only
      by_cases hdel : e.canBeDeletedBy requester = true ∧ e.deleted = false
      · rw [if_pos (by simp [hdel]), ← h.get?_tombstone he hdel.1]
        exact ih (h.apply _)
      · rw [if_neg (by simpa using hdel), Contents.delete_eq_self]
        · exact ih h
        · intro x hx hcan
          rw [he] at hx
          cases hx
          simpa [hcan] using hdel

end ShortLinks.Log
