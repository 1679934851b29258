import ShortLinks.Proofs.Store.Database
import ShortLinks.Proofs.Store.History
import ShortLinks.Proofs.Store.Lawful

/-!
# Batches in a database

A database is assumed to keep what a transaction has done apart until COMMIT, and to do with each upsert of it what the
indexes of the table say. A batch of new ids then ends as it does in memory: with the same answers, item by item, and
with the same contents.
-/

set_option autoImplicit false

namespace ShortLinks

namespace Database

/-- A database that holds entries in a table, and beside it what the open transaction sees, if one is open. Nothing is
known of it but what becomes of BEGIN, of the upserts and of COMMIT where none of these fails, and that what is not
committed changes nothing. -/
class TransactingDatabase (δ : Type) [Database δ] where
  Reachable : δ → Prop
  table : δ → Contents
  pending : δ → Option Contents
  acquire_granted (d : δ) : Reachable d → ∃ d', acquire d = (.granted, d') ∧ table d' = table d ∧ pending d' = none
  start (d : δ) : pending d = none → (send .start d).1.isDone = true ∧ table (send .start d).2 = table d ∧
    pending (send .start d).2 = some (table d)
  upserts (d : δ) (e : Entry) (c : Contents) : pending d = some c → c.Keyed → c.OneLive →
    table (send (.upsert e) d).2 = table d ∧ ∃ c', Upserts c e (send (.upsert e) d).1 c' ∧
      ((send (.upsert e) d).1.isDone = true → pending (send (.upsert e) d).2 = some c')
  commit (d : δ) (c : Contents) : pending d = some c → (send .commit d).1.isDone = true ∧ table (send .commit d).2 = c
  release_table (d : δ) : table (release d) = table d

end Database

open Database (TransactingDatabase)
open Database.TransactingDatabase (table pending)

theorem Entry.answering_eq {item x : Entry} (htarget : x.target = item.target) (hdeleted : x.deleted = item.deleted) :
    x.answering item = { item with id := x.id, owner := x.owner } := by
  unfold Entry.answering
  rw [htarget, hdeleted]

namespace DatabaseStore

variable {δ : Type} [Database δ] {s : DatabaseStore δ} {e : Entry} {batch : List Entry} {c c' : Contents}
  {reply : Database.Reply} {d : δ}

theorem upsert_answers (hsend : Database.send (.upsert e) s.database = (reply, d)) (hupserts : Database.Upserts c e reply c')
    (hlive : e.deleted = false) (hid : c e.id = none) :
    reply.isDone = true ∧ ∃ id owner, (upsert e).Ends s (.ok (id, owner)) { s with database := d } ∧
      c.Answers [e] [if id = e.id then e else { e with id, owner }] c' := by
  cases hupserts with
  | known x hx =>
    refine ⟨rfl, x.id, x.owner, upsert_of_rows hsend, ?_⟩
    have hother : x.id ≠ e.id := by
      intro heq
      rw [← heq, hx.1] at hid
      cases hid
    rw [if_neg hother, ← Entry.answering_eq hx.target_eq (hx.live.trans hlive.symm)]
    exact .known hx (.nil c)
  | taken message hfree htaken => exact absurd hid htaken
  | inserted hfree =>
    have hsame : { e with deleted := false } = e := by rw [← hlive]
    refine ⟨rfl, e.id, e.owner, upsert_of_rows hsend, ?_⟩
    rw [if_pos rfl, hsame]
    exact .fresh hfree hid (.nil _)

variable [TransactingDatabase δ]

/-- The upserts of a batch of new ids answer as any store does. They change what the transaction sees, and not what is
committed. -/
theorem upsertAll_answers (hpending : pending s.database = some c) (hkeyed : c.Keyed) (hone : c.OneLive)
    (hlive : ∀ e ∈ batch, e.deleted = false) (hfree : firstTaken? (fun id => (c id).isSome) batch = none) :
    ∃ answers c' d, (upsertAll batch).Ends s (.ok answers) { s with database := d } ∧ c.Answers batch answers c' ∧
      pending d = some c' := by
  induction batch generalizing s c with
  | nil => exact ⟨[], c, s.database, ⟨rfl, rfl⟩, .nil c, hpending⟩
  | cons e rest ih =>
    obtain ⟨reply, d, hsend⟩ : ∃ reply d, Database.send (.upsert e) s.database = (reply, d) := ⟨_, _, rfl⟩
    obtain ⟨-, c₁, hupserts, hnext⟩ := TransactingDatabase.upserts s.database e c hpending hkeyed hone
    rw [hsend] at hupserts hnext
    have hid : c e.id = none := by simpa using (firstTaken?_cons_eq_none hfree).1
    obtain ⟨hdone, id, owner, hupsert, hfirst⟩ := upsert_answers hsend hupserts (hlive e List.mem_cons_self) hid
    obtain ⟨answers, c', d', hrest, hanswers, hpending'⟩ := ih (s := { s with database := d }) (hnext hdone)
      (hkeyed.answers hfirst) (hone.answers hfirst) (fun x hx => hlive x (List.mem_cons_of_mem e hx))
      (hfirst.firstTaken?_rest hfree)
    exact ⟨_, c', d', hupsert.bind (hrest.bind ⟨rfl, rfl⟩), hfirst.cons hanswers, hpending'⟩

theorem createBatch_answers (hopen : s.closed = false) (hreachable : TransactingDatabase.Reachable s.database)
    (hkeyed : (table s.database).Keyed) (hone : (table s.database).OneLive) (hlive : ∀ e ∈ batch, e.deleted = false)
    (hfree : firstTaken? (fun id => (table s.database id).isSome) batch = none) :
    ∃ answers s', (createBatch batch).Ends s (.ok answers) s' ∧
      (table s.database).Answers batch answers (table s'.database) := by
  obtain ⟨d, hgranted, htable, hidle⟩ := TransactingDatabase.acquire_granted s.database hreachable
  obtain ⟨hbegun, -, hpending⟩ := TransactingDatabase.start d hidle
  rw [htable] at hpending
  obtain ⟨answers, c', d', hupserts, hanswers, hpending'⟩ := upsertAll_answers
    (s := { s with database := (Database.send .start d).2 }) hpending hkeyed hone hlive hfree
  obtain ⟨hcommitted, htable'⟩ := TransactingDatabase.commit d' c' hpending'
  have hstart : (send s.queryLimit .database .start).Ends { s with database := d } (.ok (Database.send .start d).1)
      { s with database := (Database.send .start d).2 } := send_of_done rfl hbegun
  have hcommit : (send s.queryLimit .database .commit).Ends { s with database := d' } (.ok (Database.send .commit d').1)
      { s with database := (Database.send .commit d').2 } := send_of_done rfl hcommitted
  refine ⟨answers, _, bounded_ends hopen hgranted (Action.ends_state_bind.mpr
    (hstart.bind (hupserts.bind (hcommit.bind ⟨rfl, rfl⟩)))), ?_⟩
  show (table s.database).Answers batch answers (table (Database.release (Database.send .commit d').2))
  rw [TransactingDatabase.release_table, htable']
  exact hanswers

/-- A batch of live entries under new ids ends in a database as it does in a memory store with the same contents: both
succeed with the same answers, and leave the same contents. -/
theorem createBatch_as_in_memory (s : DatabaseStore δ) (m : MemoryStore) (batch : List Entry) (hopen : s.closed = false)
    (hreachable : TransactingDatabase.Reachable s.database) (hm : m.Consistent) (hsame : m.contents = table s.database)
    (hlive : ∀ e ∈ batch, e.deleted = false) (hnodup : (batch.map Entry.id).Nodup)
    (hnew : ∀ e ∈ batch, table s.database e.id = none) :
    ∃ answers s' m', (Store.createBatch batch).Ends s (.ok answers) s' ∧ (Store.createBatch batch).Ends m (.ok answers) m' ∧
      m'.contents = table s'.database := by
  have hfree : firstTaken? (fun id => (table s.database id).isSome) batch = none :=
    firstTaken?_eq_none hnodup fun e he => by rw [hnew e he]; rfl
  obtain ⟨answers, s', hdatabase, hanswers⟩ :=
    createBatch_answers hopen hreachable (hsame ▸ hm.keyed) (hsame ▸ hm.oneLive) hlive hfree
  have hmemory := Action.ends_run (Store.createBatch batch) m
  obtain ⟨-, ⟨id, htaken, -⟩ | ⟨answers', hok, hanswers'⟩⟩ := LawfulStore.createBatch_ends hm hmemory
  · rw [← hsame] at hfree
    rw [show (fun id => (LawfulStore.contents m id).isSome) = fun id => (m.contents id).isSome from rfl, hfree] at htaken
    cases htaken
  · rw [← hsame] at hanswers
    obtain ⟨rfl, hcontents⟩ := Contents.Answers.unique hm.oneLive hanswers hanswers'
    exact ⟨answers, s', _, hdatabase, hok ▸ hmemory, hcontents.symm⟩

end DatabaseStore

namespace Database

/-- A database that keeps its rows in a list, and in another one what the open transaction makes of them. It answers BEGIN,
upserts and COMMIT; other statements get no rows. -/
structure Ledger where
  committed : Table
  working : Option Table

namespace Ledger

instance : Database Ledger where
  acquire l := (.granted, l)
  send
    | .start, l => (.affected 0, { l with working := some l.committed })
    | .upsert e, l => match l.working with
      | some t => ((t.upsert e).1, { l with working := some (t.upsert e).2 })
      | none => ((l.committed.upsert e).1, { l with committed := (l.committed.upsert e).2 })
    | .commit, l => (.affected 0, ⟨l.working.getD l.committed, none⟩)
    | _, l => (.rows [], l)
  release l := { l with working := none }

instance : TransactingDatabase Ledger where
  Reachable l := l.working = none
  table l := l.committed.contents
  pending l := l.working.map Table.contents
  acquire_granted l hidle := ⟨l, rfl, rfl, congrArg (Option.map Table.contents) hidle⟩
  start _ _ := ⟨rfl, rfl, rfl⟩
  upserts l e c hpending _ _ := by
    obtain ⟨committed, working⟩ := l
    cases working with
    | none => cases hpending
    | some t =>
      cases hpending
      exact ⟨rfl, _, t.upsert_upserts e, fun _ => rfl⟩
  commit l c hpending := by
    obtain ⟨committed, working⟩ := l
    cases working with
    | none => cases hpending
    | some t =>
      cases hpending
      exact ⟨rfl, rfl⟩
  release_table _ := rfl

end Ledger
end Database

namespace DatabaseStore

def ownedRow : DatabaseStore Database.Ledger where
  database := ⟨⟨[Entry.create "k" "t" (some "o") none], List.nodup_singleton _⟩, none⟩
  closed := false
  queryLimit := .ofSeconds 5
  pingLimit := .ofSeconds 2

/-- The target of the first item is taken, and the other two have one target. -/
theorem ownedRow_createBatch_as_in_memory :
    let m := MemoryStore.empty.insert (Entry.create "k" "t" (some "o") none)
    let batch := [Entry.create "a" "t" none (some "1"), Entry.create "b" "u" (some "p") (some "2"),
      Entry.create "c" "u" none (some "3")]
    let answers := [Entry.create "k" "t" (some "o") (some "1"), Entry.create "b" "u" (some "p") (some "2"),
      Entry.create "b" "u" (some "p") (some "3")]
    ownedRow.closed = false ∧ TransactingDatabase.Reachable ownedRow.database ∧ m.Consistent ∧
    m.contents = table ownedRow.database ∧ (∀ e ∈ batch, e.deleted = false) ∧ (batch.map Entry.id).Nodup ∧
    (∀ e ∈ batch, table ownedRow.database e.id = none) ∧
    ∃ s' m', (Store.createBatch batch).Ends ownedRow (.ok answers) s' ∧ (Store.createBatch batch).Ends m (.ok answers) m' ∧
      m'.contents = table s'.database := by
  intro m batch answers
  have hm : m.Consistent := MemoryStore.consistent_single _
  have hsame : m.contents = table ownedRow.database := by
    rw [MemoryStore.contents_insert, MemoryStore.contents_empty]
    exact (Database.Table.contents_cons ownedRow.database.committed.nodup).symm
  have hlive : ∀ e ∈ batch, e.deleted = false := by decide
  have hnodup : (batch.map Entry.id).Nodup := by decide
  have hnew : ∀ e ∈ batch, table ownedRow.database e.id = none := by
    simp only [batch, List.forall_mem_cons]
    exact ⟨rfl, rfl, rfl, nofun⟩
  obtain ⟨answers', s', m', hdatabase, hmemory, hcontents⟩ :=
    createBatch_as_in_memory ownedRow m batch rfl rfl hm hsame hlive hnodup hnew
  have hanswers : ((Store.createBatch batch).run ownedRow).outcome = .ok answers := rfl
  rw [hdatabase.1] at hanswers
  cases hanswers
  exact ⟨rfl, rfl, hm, hsame, hlive, hnodup, hnew, s', m', hdatabase, hmemory, hcontents⟩

end DatabaseStore
end ShortLinks
