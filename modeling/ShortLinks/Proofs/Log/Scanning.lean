import ShortLinks.Proofs.Log.Compaction

/-!
# Logs that grow while they are scanned

Whatever records a log has taken in, its index says where each entry stands, and nothing else (`InStep`), so looking up an
entry or marking it never goes beyond the entries. A batch and a deletion take in their own records while they go through
the log. What is left of them is done to the log that the part already done has left (`storeItems_append`,
`tombstones_append`), and that log is in step as well.
-/

set_option autoImplicit false

namespace ShortLinks.Log

variable {log : Log} {e : Entry} {id requester : String} {records : List Entry}

/-- Each entry stands where the index says, and the index says nothing else. -/
structure InStep (log : Log) : Prop where
  nodup : (log.entries.toList.map Entry.id).Nodup
  position_iff (id : String) (p : Nat) :
    log.positions[id]? = some p ↔ ∃ h : p < log.entries.size, log.entries[p].id = id
  get?_at (id : String) (p : Nat) : log.positions[id]? = some p →
    ∃ h : p < log.entries.size, log.get? id = some log.entries[p]
  get?_iff (id : String) (e : Entry) :
    log.get? id = some e ↔ (e ∈ log.entries ∧ e.id = id) ∧ ∀ x ∈ log.entries, x.id = id → x = e
  contains_iff (id : String) : log.contains id = true ↔ ∃ e ∈ log.entries, e.id = id
  /-- A record of a known id marks the entry that stands at its position, if anything. -/
  apply_at (r : Entry) (p : Nat) : log.positions[r.id]? = some p → ∃ h : p < log.entries.size,
    log.apply r = if r.deleted then { log with entries := log.entries.set p log.entries[p].markDeleted } else log

theorem modify_eq_set {entries : Array Entry} {p : Nat} (h : p < entries.size) (f : Entry → Entry) :
    entries.modify p f = entries.set p (f entries[p]) := by
  refine Array.ext (by rw [Array.size_modify, Array.size_set]) fun q hq _ => ?_
  rw [Array.getElem_modify, Array.getElem_set]
  split
  · next heq => simp only [heq]
  · rfl

theorem Indexed.inStep (h : log.Indexed) : log.InStep where
  nodup := h.nodup
  position_iff id p := by
    rw [h id p]
    constructor
    · rintro ⟨e, he, rfl⟩
      obtain ⟨hp, rfl⟩ := Array.getElem?_eq_some_iff.mp he
      exact ⟨hp, rfl⟩
    · rintro ⟨hp, hid⟩
      exact ⟨_, Array.getElem?_eq_getElem hp, hid⟩
  get?_at id p hpos := by
    obtain ⟨e, he, -⟩ := (h id p).mp hpos
    obtain ⟨hp, rfl⟩ := Array.getElem?_eq_some_iff.mp he
    refine ⟨hp, ?_⟩
    unfold get?
    rw [hpos, Option.bind_some, he]
  get?_iff id e := by
    rw [h.get?_eq_some]
    refine (and_iff_left_of_imp fun he x hx hid => ?_).symm
    have hfound := h.get?_eq_some.mpr he
    rw [h.get?_eq_some.mpr ⟨hx, hid⟩] at hfound
    exact Option.some.inj hfound
  contains_iff id := by
    rw [h.contains_eq, Option.isSome_iff_exists]
    exact exists_congr fun e => h.get?_eq_some
  apply_at r p hpos := by
    obtain ⟨e, he, -⟩ := (h r.id p).mp hpos
    obtain ⟨hp, -⟩ := Array.getElem?_eq_some_iff.mp he
    exact ⟨hp, by rw [apply_known hpos, modify_eq_set hp]⟩

def afterItems (log : Log) (done : List Entry) : Log := (log.storeItems done).2.foldl apply log

def afterDeletions (log : Log) (requester : String) (done : List String) : Log :=
  (log.tombstones requester done).foldl apply log

theorem storeItems_append (log : Log) (done rest : List Entry) : log.storeItems (done ++ rest) =
    ((log.storeItems done).1 ++ ((log.afterItems done).storeItems rest).1,
      (log.storeItems done).2 ++ ((log.afterItems done).storeItems rest).2) := by
  unfold afterItems
  induction done generalizing log with
  | nil => rfl
  | cons item done ih =>
    rw [List.cons_append, storeItems, storeItems]
    cases log.liveFor? item.target with
    | some existing =>
      dsimp only
      rw [ih log]
      rfl
    | none =>
      dsimp only
      rw [ih (log.apply item)]
      rfl

theorem tombstones_append (log : Log) (requester : String) (done rest : List String) :
    log.tombstones requester (done ++ rest) =
      log.tombstones requester done ++ (log.afterDeletions requester done).tombstones requester rest := by
  unfold afterDeletions
  induction done generalizing log with
  | nil => rfl
  | cons id done ih =>
    rw [List.cons_append, tombstones, tombstones]
    cases log.get? id with
    | none => exact ih log
    | some e =>
      dsimp only
      split
      · rw [ih (log.apply e.markDeleted)]
        rfl
      · exact ih log

/-- What a log comes to that has taken in these records. -/
structure Keeps (records : List Entry) (log : Log) : Prop where
  inStep : log.InStep
  /-- There is one entry for each id, and written anew the log has one record for each. -/
  ids_eq : log.entries.toList.map Entry.id = (records.map Entry.id).eraseDups
  written : recordsOf log.toBytes = log.entries.toList
  /-- After any number of its items, a batch goes on with a log that is in step. -/
  batch (done rest : List Entry) : (log.afterItems done).InStep ∧ log.storeItems (done ++ rest) =
    ((log.storeItems done).1 ++ ((log.afterItems done).storeItems rest).1,
      (log.storeItems done).2 ++ ((log.afterItems done).storeItems rest).2)
  deletion (requester : String) (done rest : List String) : (log.afterDeletions requester done).InStep ∧
    log.tombstones requester (done ++ rest) =
      log.tombstones requester done ++ (log.afterDeletions requester done).tombstones requester rest

theorem Indexed.keeps (h : log.Indexed) (hids : log.entries.toList.map Entry.id = (records.map Entry.id).eraseDups)
    (hwritten : recordsOf log.toBytes = log.entries.toList) : Keeps records log where
  inStep := h.inStep
  ids_eq := hids
  written := hwritten
  batch done rest := ⟨(h.applyAll _).inStep, storeItems_append log done rest⟩
  deletion requester done rest := ⟨(h.applyAll _).inStep, tombstones_append log requester done rest⟩

theorem ofBytes_recordLines (records : List Entry) : ofBytes (recordLines records) = records.foldl apply empty :=
  ofBytes_append_recordLines .nil records

/-- The index of a log is in step with its entries, whatever records it takes in and whatever bytes they are read from, and
it stays so while a batch or a deletion goes through the log. -/
theorem index_in_step : (∀ records : List Entry, Keeps records (records.foldl apply empty)) ∧
    ∀ content : Bytes, Keeps (recordsOf content) (ofBytes content) := by
  constructor
  · intro records
    refine (empty_indexed.applyAll records).keeps (ids_foldl_apply records) ?_
    rw [← ofBytes_recordLines]
    exact recordsOf_toBytes _
  · intro content
    exact (ofBytes_indexed content).keeps (ids_ofBytes content) (recordsOf_toBytes content)

end ShortLinks.Log
