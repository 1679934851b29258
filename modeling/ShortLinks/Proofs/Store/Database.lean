import ShortLinks.Proofs.Store.Lawful
import ShortLinks.Proofs.Store.Memory
import ShortLinks.Store.Database

/-!
# Adding an entry to a database

A database is assumed to do with an upsert what the indexes of its table say: it gives back the live row that has
the target, or refuses an id that is taken, or inserts the row. What the store makes of the answer is then what any
other store does, but for one case: a live row for the target that has the very id that was sent comes back as if it
had been inserted.
-/

set_option autoImplicit false

namespace ShortLinks

namespace Database

def Cell.ofOption : Option String → Cell
  | some value => .text value
  | none => .null

def Row.ofEntry (e : Entry) : Row := [.text e.id, .ofOption e.owner]

theorem Row.stored_ofEntry (e : Entry) : Row.stored (.ofEntry e) = .ok (e.id, e.owner) := by
  unfold Row.ofEntry
  cases e.owner <;> rfl

def Reply.isDone : Reply → Bool
  | .failed _ | .stalled => false
  | .rows _ | .affected _ => true

def idTaken (message : String) : DatabaseError :=
  .refused { violation := .unique, constraint := some StoreError.idIndex, message }

/-- What an upsert answers where the table holds `c`, and what the table holds after it. -/
inductive Upserts (c : Contents) (e : Entry) : Reply → Contents → Prop where
  | known (x : Entry) (hx : c.LiveFor e.target x) : Upserts c e (.rows [.ofEntry x]) c
  | taken (message : String) (hfree : ∀ x, ¬ c.LiveFor e.target x) (hid : c e.id ≠ none) :
      Upserts c e (.failed (idTaken message)) c
  | inserted (hfree : ∀ x, ¬ c.LiveFor e.target x) (hid : c e.id = none) :
      Upserts c e (.rows [.ofEntry e]) (c.store { e with deleted := false })

/-- A database that holds entries in a table, of which nothing is known but what becomes of an upsert. Of its
connections it is known that they leave the table alone, and that one is to be had while it is reachable. -/
class UpsertingDatabase (δ : Type) [Database δ] where
  Reachable : δ → Prop
  table : δ → Contents
  acquire_granted (d : δ) : Reachable d → ∃ d', acquire d = (.granted, d') ∧ table d' = table d
  release_table (d : δ) : table (release d) = table d
  upserts (d : δ) (e : Entry) : (table d).Keyed → (table d).OneLive →
    Upserts (table d) e (send (.upsert e) d).1 (table (send (.upsert e) d).2)

end Database

open Database (UpsertingDatabase)

namespace DatabaseStore

variable {δ α : Type} [Database δ] {s s' : DatabaseStore δ} {e : Entry} {d : δ} {reply : Database.Reply}
  {statement : Database.Statement} {limit : Duration} {explain : Database.DatabaseError → StoreError} {late : StoreError}

theorem acquire_of_closed (hclosed : s.closed = true) :
    (acquire explain late).Ends s (.error (explain .poolClosed)) s := by
  unfold Action.Ends Action.run acquire
  rw [if_pos hclosed]
  exact ⟨rfl, rfl⟩

theorem acquire_of_open {access : Database.Access} (hopen : s.closed = false)
    (h : Database.acquire s.database = (access, d)) :
    (acquire explain late).Ends s (access.outcome explain late) { s with database := d } := by
  unfold Action.Ends Action.run acquire
  rw [if_neg (hopen ▸ Bool.false_ne_true), h]
  exact ⟨rfl, rfl⟩

theorem bounded_ends {limit : DatabaseStore δ → Duration} {a : Action StoreError (DatabaseStore δ) α}
    {r : Except StoreError α} (hopen : s.closed = false) (hgranted : Database.acquire s.database = (.granted, d))
    (ha : a.Ends { s with database := d } r s') :
    (bounded limit explain a).Ends s r { s' with database := Database.release s'.database } := by
  have hacquire : (acquire explain (.timeout (limit s))).Ends s (.ok ()) { s with database := d } :=
    acquire_of_open hopen hgranted
  refine Action.ends_state_bind.mpr (hacquire.bind ((Action.ends_attempt.mpr ⟨r, ha, rfl⟩).bind ?_))
  refine (Action.ends_modify.mpr ⟨rfl, rfl⟩).bind ?_
  cases r with
  | ok x => exact ⟨rfl, rfl⟩
  | error cause => exact ⟨rfl, rfl⟩

theorem bounded_of_refused {limit : DatabaseStore δ → Duration} {a : Action StoreError (DatabaseStore δ) α}
    {cause : StoreError} (h : (acquire explain (.timeout (limit s))).Ends s (.error cause) s') :
    (bounded limit explain a).Ends s (.error cause) s' :=
  Action.ends_state_bind.mpr (h.bind_error_iff.mpr ⟨rfl, rfl⟩)

theorem send_of_done (hsend : Database.send statement s.database = (reply, d)) (hdone : reply.isDone = true) :
    (send limit explain statement).Ends s (.ok reply) { s with database := d } := by
  unfold Action.Ends Action.run send
  rw [hsend]
  cases reply with
  | rows | affected => exact ⟨rfl, rfl⟩
  | failed | stalled => cases hdone

theorem send_of_failed {cause : Database.DatabaseError}
    (hsend : Database.send statement s.database = (.failed cause, d)) :
    (send limit explain statement).Ends s (.error (explain cause)) { s with database := d } := by
  unfold Action.Ends Action.run send
  rw [hsend]
  exact ⟨rfl, rfl⟩

omit [Database δ] in
theorem read_ends (explain : Database.DatabaseError → StoreError) (x : Except Database.DatabaseError α)
    (s : DatabaseStore δ) : (read explain x).Ends s (x.mapError explain) s := by
  cases x <;> exact ⟨rfl, rfl⟩

theorem upsert_of_row {row : Database.Row} {rows : List Database.Row}
    (hsend : Database.send (.upsert e) s.database = (.rows (row :: rows), d)) :
    (upsert e).Ends s ((Database.Row.stored row).mapError (.ofDatabase e.id)) { s with database := d } := by
  have hrow : (firstRow (.ofDatabase e.id) (.rows (row :: rows))).Ends { s with database := d } (.ok row)
      { s with database := d } := ⟨rfl, rfl⟩
  exact Action.ends_state_bind.mpr ((send_of_done hsend rfl).bind (hrow.bind (read_ends _ _ _)))

theorem upsert_of_rows {x : Entry} (hsend : Database.send (.upsert e) s.database = (.rows [.ofEntry x], d)) :
    (upsert e).Ends s (.ok (x.id, x.owner)) { s with database := d } := by
  have hends := upsert_of_row hsend
  rw [Database.Row.stored_ofEntry] at hends
  exact hends

theorem upsert_of_failed {cause : Database.DatabaseError}
    (hsend : Database.send (.upsert e) s.database = (.failed cause, d)) :
    (upsert e).Ends s (.error (.ofDatabase e.id cause)) { s with database := d } :=
  Action.ends_state_bind.mpr ((send_of_failed hsend).bind_error_iff.mpr ⟨rfl, rfl⟩)

theorem add_of_stored {id : String} {owner : Option String}
    (h : (bounded queryLimit (.ofDatabase e.id) (upsert e)).Ends s (.ok (id, owner)) s') :
    (add e).Ends s (if id = e.id then .ok id else .error (.createConflict id)) s' := by
  refine h.bind ?_
  dsimp only
  split
  · exact ⟨rfl, rfl⟩
  · exact ⟨rfl, rfl⟩

theorem add_of_error {cause : StoreError}
    (h : (bounded queryLimit (.ofDatabase e.id) (upsert e)).Ends s (.error cause) s') :
    (add e).Ends s (.error cause) s' :=
  Action.ends_bind.mpr (.inr ⟨cause, h, rfl⟩)

/-- How adding ends, in terms of the table before and after: with the id of the row that is live for the target, if
that is the id that was sent, and otherwise as the laws of stores say. -/
inductive Adds (c : Contents) (e : Entry) : Except StoreError String → Contents → Prop where
  | echoed (x : Entry) (hx : c.LiveFor e.target x) (hid : x.id = e.id) : Adds c e (.ok e.id) c
  | lawful (r : Except StoreError String) (c' : Contents) (hother : ∀ x, c.LiveFor e.target x → x.id ≠ e.id)
      (hstep : c.Step (.add e) (r.map Reply.id) c') : Adds c e r c'

theorem add_cases [UpsertingDatabase δ] (hopen : s.closed = false)
    (hreachable : UpsertingDatabase.Reachable s.database) (hkeyed : (UpsertingDatabase.table s.database).Keyed)
    (hone : (UpsertingDatabase.table s.database).OneLive) (hlive : e.deleted = false) :
    Adds (UpsertingDatabase.table s.database) e ((add e).run s).outcome
      (UpsertingDatabase.table ((add e).run s).state.database) := by
  obtain ⟨d, hgranted, htable⟩ := UpsertingDatabase.acquire_granted s.database hreachable
  have hupsert := UpsertingDatabase.upserts d e (htable ▸ hkeyed) (htable ▸ hone)
  rw [htable] at hupsert
  generalize UpsertingDatabase.table s.database = c at hone hupsert ⊢
  obtain ⟨reply, d', hsend⟩ : ∃ reply d', Database.send (.upsert e) d = (reply, d') := ⟨_, _, rfl⟩
  rw [hsend, ← UpsertingDatabase.release_table d'] at hupsert
  generalize hc' : UpsertingDatabase.table (Database.release d') = c' at hupsert
  cases hupsert with
  | known x hx =>
    obtain ⟨hr, hs⟩ := add_of_stored (bounded_ends hopen hgranted (upsert_of_rows hsend))
    rw [hr, hs, hc']
    by_cases hid : x.id = e.id
    · rw [if_pos hid, hid]
      exact .echoed x hx hid
    · rw [if_neg hid]
      refine .lawful _ _ (fun y hy => ?_) (.conflict hx)
      rw [hone _ _ _ hy hx]
      exact hid
  | taken message hfree hid =>
    obtain ⟨hr, hs⟩ := add_of_error (bounded_ends hopen hgranted (upsert_of_failed hsend))
    rw [hr, hs, hc']
    exact .lawful _ _ (fun x hx => absurd hx (hfree x)) (.taken hfree hid)
  | inserted hfree hid =>
    obtain ⟨hr, hs⟩ := add_of_stored (bounded_ends hopen hgranted (upsert_of_rows hsend))
    have hsame : { e with deleted := false } = e := by rw [← hlive]
    rw [hr, hs, hc', if_pos rfl, hsame]
    exact .lawful _ _ (fun x hx => absurd hx (hfree x)) (.added hfree hid)

/-- Adding a live entry to a database and to a memory store with the same contents leaves the same contents. The
two answer alike, unless the live entry for the target has the very id that was sent: the memory store refuses it,
and the database store answers as if it had been stored. -/
theorem add_as_in_memory [UpsertingDatabase δ] (s : DatabaseStore δ) (m : MemoryStore) (e : Entry)
    (hopen : s.closed = false) (hreachable : UpsertingDatabase.Reachable s.database) (hm : m.Consistent)
    (hsame : m.contents = UpsertingDatabase.table s.database) (hlive : e.deleted = false) :
    UpsertingDatabase.table ((Store.add e).run s).state.database = ((Store.add e).run m).state.contents ∧
    ((∀ x, m.contents.LiveFor e.target x → x.id ≠ e.id) →
      ((Store.add e).run s).outcome = ((Store.add e).run m).outcome) ∧
    (∀ x, m.contents.LiveFor e.target x → x.id = e.id →
      ((Store.add e).run s).outcome = .ok e.id ∧
      ((Store.add e).run m).outcome = .error (.createConflict e.id)) := by
  obtain ⟨-, hmemory⟩ := LawfulStore.call_ends (.add e) rfl hm (Action.ends_run (Store.add e) m)
  have hdatabase := add_cases hopen hreachable (hsame ▸ hm.keyed) (hsame ▸ hm.oneLive) hlive
  rw [← hsame] at hdatabase
  change Adds m.contents e ((Store.add e).run s).outcome
    (UpsertingDatabase.table ((Store.add e).run s).state.database) at hdatabase
  change m.contents.Step (.add e) _ ((Store.add e).run m).state.contents at hmemory
  generalize ((Store.add e).run s).outcome = r at hdatabase ⊢
  generalize UpsertingDatabase.table ((Store.add e).run s).state.database = c at hdatabase ⊢
  generalize ((Store.add e).run m).outcome = r' at hmemory ⊢
  generalize ((Store.add e).run m).state.contents = c' at hmemory ⊢
  cases hdatabase with
  | echoed x hx hid =>
    obtain ⟨hr', rfl⟩ := hmemory.unique hm.oneLive (.conflict hx)
    rw [hid] at hr'
    exact ⟨rfl, fun hother => absurd hid (hother x hx), fun _ _ _ => ⟨rfl, map_eq_error.mp hr'⟩⟩
  | lawful _ _ hother hstep =>
    obtain ⟨hr, rfl⟩ := hstep.unique hm.oneLive hmemory
    exact ⟨rfl, fun _ => map_inj (fun _ _ => Reply.id.inj) hr, fun x hx hid => absurd hid (hother x hx)⟩

end DatabaseStore

namespace Database

/-- A database that keeps its rows in a list. It answers upserts only; other statements get no rows. -/
structure Table where
  rows : List Entry
  nodup : (rows.map Entry.id).Nodup

namespace Table

variable {t : Table} {e x : Entry} {id target : String}

def contents (t : Table) : Contents := fun id => t.rows.find? (·.id = id)

theorem contents_eq_some : t.contents id = some e ↔ e ∈ t.rows ∧ e.id = id := by
  constructor
  · intro h
    exact ⟨List.mem_of_find?_eq_some h, by simpa using List.find?_some h⟩
  · rintro ⟨he, rfl⟩
    cases hfound : t.contents e.id with
    | none => exact absurd (decide_eq_true rfl) (List.find?_eq_none.mp hfound e he)
    | some x =>
      have hid : x.id = e.id := by simpa using List.find?_some hfound
      rw [List.inj_on_of_nodup_map t.nodup (List.mem_of_find?_eq_some hfound) he hid]

theorem contents_eq_none : t.contents id = none ↔ id ∉ t.rows.map Entry.id := by
  simp [contents]

theorem liveFor_iff : t.contents.LiveFor target e ↔ e ∈ t.rows ∧ e.isLiveFor target = true := by
  rw [Contents.LiveFor, contents_eq_some, and_iff_left rfl]

theorem contents_cons {rows : List Entry} (hnodup : ((e :: rows).map Entry.id).Nodup) :
    contents ⟨e :: rows, hnodup⟩ = (contents ⟨rows, (List.nodup_cons.mp hnodup).2⟩).store e := by
  funext id
  show (e :: rows).find? (·.id = id) = _
  by_cases h : id = e.id
  · rw [h, Contents.store_self, List.find?_cons_of_pos (by simp)]
  · rw [Contents.store_other h, List.find?_cons_of_neg (by simpa using Ne.symm h)]
    rfl

def upsert (e : Entry) (t : Table) : Reply × Table :=
  match t.rows.find? (·.isLiveFor e.target) with
  | some x => (.rows [.ofEntry x], t)
  | none =>
    if hid : e.id ∈ t.rows.map Entry.id then
      (.failed (idTaken "duplicate key value violates unique constraint"), t)
    else (.rows [.ofEntry e], ⟨{ e with deleted := false } :: t.rows, List.nodup_cons.mpr ⟨hid, t.nodup⟩⟩)

instance : Database Table where
  acquire t := (.granted, t)
  send
    | .upsert e, t => t.upsert e
    | _, t => (.rows [], t)
  release t := t

theorem upsert_upserts (t : Table) (e : Entry) : Upserts t.contents e (t.upsert e).1 (t.upsert e).2.contents := by
  unfold upsert
  split
  · next x hx => exact .known x (liveFor_iff.mpr ⟨List.mem_of_find?_eq_some hx, by simpa using List.find?_some hx⟩)
  · next hnone =>
    have hfree : ∀ x, ¬ t.contents.LiveFor e.target x := by
      intro x hx
      obtain ⟨hmem, hlive⟩ := liveFor_iff.mp hx
      exact List.find?_eq_none.mp hnone x hmem hlive
    split
    · next hid => exact .taken _ hfree fun h => contents_eq_none.mp h hid
    · next hid =>
      rw [contents_cons]
      exact .inserted hfree (contents_eq_none.mpr hid)

instance : UpsertingDatabase Table where
  Reachable _ := True
  table := contents
  acquire_granted t _ := ⟨t, rfl, rfl⟩
  release_table _ := rfl
  upserts t e _ _ := t.upsert_upserts e

end Table
end Database

theorem MemoryStore.consistent_single (e : Entry) : (empty.insert e).Consistent := by
  refine empty_consistent.insert (fun x hx => ?_) ?_
  · rw [contents_empty] at hx
    cases hx.1
  · rw [contents_empty]
    rfl

namespace DatabaseStore

def oneRow (id target : String) : DatabaseStore Database.Table where
  database := ⟨[Entry.create id target none none], List.nodup_singleton _⟩
  closed := false
  queryLimit := .ofSeconds 5
  pingLimit := .ofSeconds 2

def oneEntry (id target : String) : MemoryStore := MemoryStore.empty.insert (Entry.create id target none none)

theorem oneEntry_consistent (id target : String) : (oneEntry id target).Consistent :=
  MemoryStore.consistent_single _

theorem oneEntry_contents (id target : String) :
    (oneEntry id target).contents = UpsertingDatabase.table (oneRow id target).database := by
  rw [oneEntry, MemoryStore.contents_insert, MemoryStore.contents_empty]
  exact (Database.Table.contents_cons (oneRow id target).database.nodup).symm

theorem oneRow_add_as_in_memory :
    (oneRow "a" "t").closed = false ∧ UpsertingDatabase.Reachable (oneRow "a" "t").database ∧
    (oneEntry "a" "t").Consistent ∧
    (oneEntry "a" "t").contents = UpsertingDatabase.table (oneRow "a" "t").database ∧
    ((Store.add (Entry.create "b" "t" none none)).run (oneRow "a" "t")).outcome =
      ((Store.add (Entry.create "b" "t" none none)).run (oneEntry "a" "t")).outcome := by
  have hsame := oneEntry_contents "a" "t"
  obtain ⟨-, halike, -⟩ := add_as_in_memory (oneRow "a" "t") (oneEntry "a" "t") (Entry.create "b" "t" none none) rfl
    trivial (oneEntry_consistent "a" "t") hsame rfl
  refine ⟨rfl, trivial, oneEntry_consistent "a" "t", hsame, halike fun x hx hid => ?_⟩
  have hstored := hx.1
  rw [hid, hsame] at hstored
  cases hstored

/-- Adding once more what is there is refused by the memory store, and not by the database store. -/
theorem oneRow_add_again :
    (oneRow "a" "t").closed = false ∧ UpsertingDatabase.Reachable (oneRow "a" "t").database ∧
    (oneEntry "a" "t").Consistent ∧
    (oneEntry "a" "t").contents = UpsertingDatabase.table (oneRow "a" "t").database ∧
    ((Store.add (Entry.create "a" "t" none none)).run (oneRow "a" "t")).outcome = .ok "a" ∧
    ((Store.add (Entry.create "a" "t" none none)).run (oneEntry "a" "t")).outcome = .error (.createConflict "a") := by
  have hconsistent := oneEntry_consistent "a" "t"
  have hsame := oneEntry_contents "a" "t"
  have hlive : (oneEntry "a" "t").contents.LiveFor "t" (Entry.create "a" "t" none none) := by
    rw [hsame]
    exact Database.Table.liveFor_iff.mpr ⟨List.mem_singleton_self _, rfl⟩
  refine ⟨rfl, trivial, hconsistent, hsame, ?_, ?_⟩
  · rfl
  · obtain ⟨-, hstep⟩ := LawfulStore.call_ends (.add (Entry.create "a" "t" none none)) rfl hconsistent
      (Action.ends_run (Store.add _) (oneEntry "a" "t"))
    exact map_eq_error.mp (hstep.unique hconsistent.oneLive (.conflict hlive)).1

end DatabaseStore
end ShortLinks
