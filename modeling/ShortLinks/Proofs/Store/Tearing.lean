import ShortLinks.Proofs.Log.Torn
import ShortLinks.Proofs.Store.Compaction
import ShortLinks.Proofs.Store.History

/-!
# Calls whose write is torn

A call puts all its records into the log with one write, and the disk may stop anywhere within it. What is read
afterwards is what the first of these records say: a record counts as soon as its last byte is there, and one that was
cut off before that says nothing. No entry is lost, and none is read that the call was not to leave.
-/

set_option autoImplicit false

namespace ShortLinks

def Call.records (log : Log) : Call → List Entry
  | .add e => match log.refusal? e with
    | some _ => []
    | none => [e]
  | .createBatch batch => match firstTaken? log.contains batch with
    | some _ => []
    | none => (log.storeItems batch).2
  | .softDelete requester ids => log.tombstones requester ids
  | .getById _ | .allByOwner _ | .stats | .ping | .close => []

namespace Log

variable {log : Log} {records batch : List Entry} {e r x : Entry} {id : String} {refusal : StoreError}

theorem records_add_of_refused (h : log.refusal? e = some refusal) : (Call.add e).records log = [] := by
  simp only [Call.records, h]

theorem records_add (h : log.refusal? e = none) : (Call.add e).records log = [e] := by
  simp only [Call.records, h]

theorem records_createBatch_of_taken (h : firstTaken? log.contains batch = some id) :
    (Call.createBatch batch).records log = [] := by
  simp only [Call.records, h]

theorem records_createBatch (h : firstTaken? log.contains batch = none) :
    (Call.createBatch batch).records log = (log.storeItems batch).2 := by
  simp only [Call.records, h]

def Admits (log : Log) (r : Entry) : Prop := log.get? r.id = none ∨ ∃ e, log.get? r.id = some e ∧ r = e.markDeleted

/-- Records each of which is admitted after those before it. -/
inductive Writes : Log → List Entry → Prop where
  | nil (log : Log) : Writes log []
  | cons {log : Log} {r : Entry} {records : List Entry} (hr : log.Admits r) (h : Writes (log.apply r) records) :
      Writes log (r :: records)

theorem Writes.take (h : log.Writes records) (k : Nat) : log.Writes (records.take k) := by
  induction h generalizing k with
  | nil log =>
    rw [List.take_nil]
    exact .nil log
  | cons hr _ ih =>
    cases k with
    | zero => exact .nil _
    | succ k => exact .cons hr (ih k)

theorem Indexed.get?_apply_admitted (h : log.Indexed) (hr : log.Admits r) :
    (log.apply r).get? = Contents.store log.get? r := by
  rcases hr with hfree | ⟨e, he, rfl⟩
  · exact h.get?_apply_fresh hfree
  · exact h.get?_apply_markDeleted he

theorem Indexed.persists_apply_admitted (h : log.Indexed) (hr : log.Admits r) :
    Contents.Persists log.get? (log.apply r).get? := by
  rw [h.get?_apply_admitted hr]
  rcases hr with hfree | ⟨e, he, rfl⟩
  · exact .store hfree
  · intro id x hx
    by_cases hid : id = e.markDeleted.id
    · rw [hid, he] at hx
      cases hx
      rw [hid, Contents.store_self]
      exact .inr rfl
    · rw [Contents.store_other hid]
      exact .inl hx

namespace Writes

theorem persists (h : log.Writes records) (hlog : log.Indexed) :
    Contents.Persists log.get? (records.foldl apply log).get? := by
  induction h with
  | nil log => exact .refl _
  | cons hr _ ih => exact (hlog.persists_apply_admitted hr).trans (ih (hlog.apply _))

theorem origin (h : log.Writes records) (hlog : log.Indexed) (hx : (records.foldl apply log).get? id = some x) :
    log.get? id = some x ∨ x ∈ records := by
  induction h with
  | nil log => exact .inl hx
  | @cons log r records hr _ ih =>
    rcases ih (hlog.apply r) hx with hnext | hmem
    · rw [hlog.get?_apply_admitted hr] at hnext
      by_cases hid : id = r.id
      · rw [hid, Contents.store_self] at hnext
        cases hnext
        exact .inr List.mem_cons_self
      · rw [Contents.store_other hid] at hnext
        exact .inl hnext
    · exact .inr (List.mem_cons_of_mem r hmem)

end Writes

theorem Indexed.storeItems_writes (h : log.Indexed)
    (hfree : firstTaken? (fun id => (log.get? id).isSome) batch = none) : log.Writes (log.storeItems batch).2 := by
  induction batch generalizing log with
  | nil => exact .nil log
  | cons item rest ih =>
    obtain ⟨hid, hrest⟩ := firstTaken?_cons_eq_none hfree
    unfold storeItems
    cases hlive : log.liveFor? item.target with
    | some x => exact ih h (firstTaken?_eq_none_of_le (fun id hid => by simp [hid]) hrest)
    | none =>
      have hnone : log.get? item.id = none := by simpa using hid
      refine .cons (.inl hnone) (ih (h.apply item) (firstTaken?_eq_none_of_le (fun id hsome => ?_) hrest))
      by_cases heq : id = item.id
      · simp [heq]
      · rw [h.get?_apply_fresh hnone, Contents.store_other heq] at hsome
        simp [hsome]

theorem Indexed.tombstones_writes (h : log.Indexed) (requester : String) (ids : List String) :
    log.Writes (log.tombstones requester ids) := by
  induction ids generalizing log with
  | nil => exact .nil log
  | cons id ids ih =>
    unfold tombstones
    cases he : log.get? id with
    | none => exact ih h
    | some e =>
      dsimp only
      split
      · have hid : e.markDeleted.id = id := h.keyed id e he
        exact .cons (.inr ⟨e, by rw [hid, he], rfl⟩) (ih (h.apply _))
      · exact ih h

theorem Indexed.writes (h : log.Indexed) (call : Call) : log.Writes (call.records log) := by
  cases call with
  | add e =>
    cases hrefusal : log.refusal? e with
    | some refusal =>
      rw [records_add_of_refused hrefusal]
      exact .nil log
    | none =>
      rw [records_add hrefusal]
      exact .cons (.inl (h.get?_eq_none_of_refusal?_eq_none hrefusal)) (.nil _)
  | createBatch batch =>
    cases htaken : firstTaken? log.contains batch with
    | some id =>
      rw [records_createBatch_of_taken htaken]
      exact .nil log
    | none =>
      rw [records_createBatch htaken]
      rw [h.contains_eq] at htaken
      exact h.storeItems_writes htaken
  | softDelete requester ids => exact h.tombstones_writes requester ids
  | getById | allByOwner | stats | ping | close => exact .nil log

end Log

namespace FileStore

variable {s s' s₀ : FileStore} {call : Call} {r r₀ : Except StoreError Reply}

theorem append_nil (s : FileStore) : (append []).Ends s (.ok ()) s :=
  append_iff.mpr ⟨.ok (), s.disk, ⟨rfl, rfl⟩, rfl, rfl⟩

theorem append_pure_writes {α : Type} {records : List Entry} {x : α} {r : Except StoreError α}
    (h : (do append records; pure x : Action StoreError FileStore α).Ends s r s') :
    ∃ done, (append records).Ends s done s' ∧ ∀ e, done = .error e → r = .error e := by
  rcases Action.ends_bind.mp h with ⟨_, s₁, happend, hpure⟩ | ⟨e, happend, rfl⟩
  · obtain ⟨-, rfl⟩ := Action.ends_pure.mp hpure
    exact ⟨_, happend, nofun⟩
  · exact ⟨_, happend, fun _ heq => by cases heq; rfl⟩

theorem reads_writes {α : Type} {f : Log → α} {g : α → Reply} (h : s.disk.Holds s.path s.log)
    (hends : (g <$> (do let log ← readAll; pure (f log) : Action StoreError FileStore α)).Ends s r s') :
    ∃ done, (append []).Ends s done s' ∧ ∀ e, done = .error e → r = .error e := by
  obtain ⟨r₀, hread, rfl⟩ := Action.ends_map.mp hends
  have hpure := (readAll_of_holds h).bind_iff.mp hread
  obtain ⟨-, rfl⟩ := Action.ends_pure.mp hpure
  exact ⟨_, append_nil s', nofun⟩

theorem perform_writes (h : s.disk.Holds s.path s.log) (hends : call.perform.Ends s r s') :
    ∃ done, (append (call.records s.logOf)).Ends s done s' ∧ ∀ e, done = .error e → r = .error e := by
  cases call with
  | add e =>
    obtain ⟨r₀, hadd, rfl⟩ := Action.ends_map.mp hends
    have hrest := (readAll_of_holds h).bind_iff.mp hadd
    cases hrefusal : s.logOf.refusal? e with
    | some refusal =>
      rw [hrefusal] at hrest
      rw [Log.records_add_of_refused hrefusal, (Action.ends_fail.mp hrest).2]
      exact ⟨_, append_nil s, nofun⟩
    | none =>
      rw [hrefusal] at hrest
      rw [Log.records_add hrefusal]
      obtain ⟨done, happend, hfails⟩ := append_pure_writes hrest
      exact ⟨done, happend, fun cause heq => congrArg (Except.map Reply.id) (hfails cause heq)⟩
  | createBatch batch =>
    obtain ⟨r₀, hbatch, rfl⟩ := Action.ends_map.mp hends
    have hrest := (readAll_of_holds h).bind_iff.mp hbatch
    cases htaken : firstTaken? s.logOf.contains batch with
    | some id =>
      rw [htaken] at hrest
      rw [Log.records_createBatch_of_taken htaken, (Action.ends_fail.mp hrest).2]
      exact ⟨_, append_nil s, nofun⟩
    | none =>
      rw [htaken] at hrest
      rw [Log.records_createBatch htaken]
      obtain ⟨done, happend, hfails⟩ := append_pure_writes hrest
      exact ⟨done, happend, fun cause heq => congrArg (Except.map Reply.stored) (hfails cause heq)⟩
  | softDelete requester ids =>
    obtain ⟨r₀, hdelete, rfl⟩ := Action.ends_map.mp hends
    have hrest := (readAll_of_holds h).bind_iff.mp hdelete
    exact ⟨r₀, Action.ends_emit_bind.mp hrest, fun cause heq => congrArg (Except.map fun _ => Reply.done) heq⟩
  | getById id => exact reads_writes (f := fun log => log.get? id) (g := .entry) h hends
  | allByOwner owner =>
    exact reads_writes (f := fun log => log.entries.toList.filter fun e : Entry => e.isOwnedBy owner)
      (g := fun entries : List Entry => .owned entries) h hends
  | stats => exact reads_writes (f := fun log => Stats.ofEntries log.entries.toList) (g := .stats) h hends
  | ping =>
    obtain ⟨r₀, hping, rfl⟩ := Action.ends_map.mp hends
    rw [← hping.2, ping_state]
    exact ⟨_, append_nil s, nofun⟩
  | close =>
    obtain ⟨r₀, hclose, rfl⟩ := Action.ends_map.mp hends
    obtain ⟨-, rfl⟩ := Action.ends_pure.mp hclose
    exact ⟨_, append_nil s', nofun⟩

def undisturbed (s : FileStore) : FileStore := { s with disk := { s.disk with tears := [] } }

theorem undisturbed_steady (s : FileStore) : s.undisturbed.disk.Steady := by
  intro tear htear
  cases htear

theorem undisturbed_holds (h : s.disk.Holds s.path s.log) : s.undisturbed.disk.Holds s.path s.log :=
  h.of_nodes_eq ⟨rfl, fun _ => .rfl, fun _ => s.undisturbed_steady⟩ rfl

theorem append_undisturbed {records : List Entry} {done : Except StoreError Unit}
    (h : (append records).Ends s.undisturbed done s') :
    s'.disk.contents s'.log = s.disk.contents s.log ++ Log.recordLines records := by
  obtain ⟨s₁, hok⟩ := append_of_steady s.undisturbed_steady records
  obtain ⟨-, rfl⟩ := h.unique hok
  obtain ⟨d', hput, rfl⟩ := append_ok_iff.mp hok
  exact (Disk.append_ends hput).2.2

/-- What a torn write leaves of the records that were to be appended. -/
structure Cut (s : FileStore) (records : List Entry) (n : Nat) (s' : FileStore) : Prop where
  holds : s'.disk.Holds s'.path s'.log
  content : s'.disk.contents s'.log = s.disk.contents s.log ++ (Log.recordLines records).take n

theorem append_torn {tear : Tear} {tears : List (Option Tear)} {records : List Entry} {done : Except StoreError Unit}
    (h : s.disk.Holds s.path s.log) (htear : s.disk.tears = some tear :: tears) (hends : (append records).Ends s done s') :
    s.Cut records tear.written s' ∧ (records ≠ [] → done = .error (.io tear.cause)) := by
  by_cases hnone : records = []
  · subst hnone
    obtain ⟨-, rfl⟩ := hends.unique (append_nil s)
    exact ⟨⟨h, by simp [Log.recordLines]⟩, fun hne => absurd rfl hne⟩
  · have hbytes : Log.recordLines records ≠ [] := by
      obtain ⟨r, rest, rfl⟩ := List.exists_cons_of_ne_nil hnone
      simp [Log.recordLines, Log.recordLine]
    obtain ⟨r₀, d', hput, rfl, rfl⟩ := append_iff.mp hends
    obtain ⟨rfl, hd'⟩ := hput.unique (Disk.append_torn (n := s.log) htear hbytes)
    obtain ⟨hlater, hnodes, -⟩ := Disk.append_leaves hput
    refine ⟨⟨h.of_nodes_eq hlater hnodes, ?_⟩, fun _ => rfl⟩
    rw [hd']
    exact if_pos rfl

theorem Cut.answers {records : List Entry} {n : Nat} (h : s.Cut records n s')
    (hended : Bytes.Terminated (s.disk.contents s.log)) :
    ∃ k ≤ records.length, s'.logOf.get? = ((records.take k).foldl Log.apply s.logOf).get? ∧
      s'.Answers ((records.take k).foldl Log.apply s.logOf) := by
  obtain ⟨k, hk, hentries⟩ := Log.entries_append_take hended records n
  rw [← h.content] at hentries
  have hindexed := s.logOf_indexed.applyAll (records.take k)
  exact ⟨k, hk, s'.logOf_indexed.get?_congr hindexed hentries,
    (answers_of_holds h.holds).congr s'.logOf_indexed hindexed hentries⟩

/-- Where a log is empty or its last line is ended, a call whose write is torn fails, and however many of its bytes are
there, the store answers as if some of the records that the whole call appends, from the first one on, had been taken
in. All entries from before are still there, and only such records are new. -/
theorem torn_call {tear : Tear} {tears : List (Option Tear)} (hholds : s.disk.Holds s.path s.log)
    (hended : s.disk.contents s.log = [] ∨ (s.disk.contents s.log).getLast? = some 10)
    (hwhole : call.perform.Ends s.undisturbed r₀ s₀)
    (htear : s.disk.tears = some tear :: tears) (hends : call.perform.Ends s r s') :
    let records := call.records s.logOf
    s₀.disk.contents s₀.log = s.disk.contents s.log ++ Log.recordLines records ∧
      s'.disk.contents s'.log = s.disk.contents s.log ++ (Log.recordLines records).take tear.written ∧
      (records ≠ [] → r = .error (.io tear.cause)) ∧
      ∃ k ≤ records.length, s'.Answers ((records.take k).foldl Log.apply s.logOf) ∧
        s.contents.Persists s'.contents ∧
        ∀ id e, s'.contents id = some e → s.contents id = some e ∨ e ∈ records.take k := by
  intro records
  obtain ⟨done₀, happend₀, -⟩ := perform_writes (undisturbed_holds hholds) hwhole
  obtain ⟨done, happend, hfails⟩ := perform_writes hholds hends
  obtain ⟨hcut, hdone⟩ := append_torn hholds htear happend
  obtain ⟨k, hk, hget, hanswers⟩ := hcut.answers (Bytes.terminated_of_getLast? hended)
  have hwrites := (s.logOf_indexed.writes call).take k
  refine ⟨append_undisturbed happend₀, hcut.content, fun hne => hfails _ (hdone hne), k, hk, hanswers, ?_, ?_⟩
  · unfold contents
    rw [hget]
    exact hwrites.persists s.logOf_indexed
  · intro id e he
    unfold contents at he
    rw [hget] at he
    exact hwrites.origin s.logOf_indexed he

/-- A disk that is full within the second record of a batch. -/
def halfDisk : Disk :=
  { Disk.blank [] with tears := [some ⟨(Log.recordLine (Entry.create "a" "s" none none)).length + 9, .system 28⟩] }

def halfBatch : List Entry := [Entry.create "a" "s" none none, Entry.create "b" "t" none none]

theorem halfBatch_records : (Call.createBatch halfBatch).records Log.empty = halfBatch := by
  rw [Log.records_createBatch]
  · simp [halfBatch, Log.storeItems, Log.liveFor?, Log.apply, Log.empty, Entry.create, Entry.isLiveFor]
  · simp [halfBatch, firstTaken?, Log.contains, Log.empty, Entry.create]

theorem halfDisk_opens : ∃ s, Opens "log" halfDisk s ∧ s.disk.tears = halfDisk.tears ∧ s.disk.contents s.log = [] :=
  ⟨⟨"log", 1, ((openLog "log").run halfDisk).state⟩, ⟨⟨rfl, rfl⟩, rfl⟩, rfl, rfl⟩

theorem halfDisk_torn_call : ∃ s s', Opens "log" halfDisk s ∧
    (s.disk.contents s.log = [] ∨ (s.disk.contents s.log).getLast? = some 10) ∧ s.disk.tears = halfDisk.tears ∧
    (Call.createBatch halfBatch).perform.Ends s (.error (.io (.system 28))) s' ∧
    s'.disk.contents s'.log =
      (Log.recordLines halfBatch).take ((Log.recordLine (Entry.create "a" "s" none none)).length + 9) ∧
    ∃ k ≤ 2, s'.Answers ((halfBatch.take k).foldl Log.apply Log.empty) := by
  obtain ⟨s, hs, htears, hempty⟩ := halfDisk_opens
  have hlog : s.logOf = Log.empty := by
    unfold logOf
    rw [hempty]
    rfl
  have hends : (Call.createBatch halfBatch).perform.Ends s _ _ := Action.ends_run _ s
  obtain ⟨-, hcontent, hfails, k, hk, hanswers, -, -⟩ :=
    torn_call hs.rewritten.ready.holds (.inl hempty) (Action.ends_run _ _) htears hends
  rw [hlog, halfBatch_records] at hcontent hfails hk hanswers
  rw [hempty, List.nil_append] at hcontent
  exact ⟨s, _, hs, .inl hempty, htears, ⟨hfails (List.cons_ne_nil _ _), rfl⟩, hcontent, k, hk, hanswers⟩

end FileStore
end ShortLinks
