import ShortLinks.Proofs.Store.Database

/-!
# What a batch says to a database

A batch is one transaction: BEGIN, an upsert for each item, and COMMIT, each of them sent only when all that was sent
before it has been answered as it should be. So whatever the database replies, nothing is committed unless every item
was answered with a row, and the caller hears of a success only if the commit succeeded as well.
-/

set_option autoImplicit false

namespace ShortLinks

namespace Database

variable {α β : Type}

def Reply.row? : Reply → Option (String × Option String)
  | .rows (row :: _) => (Row.stored row).toOption
  | _ => none

theorem Reply.row?_cons (row : Row) (rows : List Row) : (Reply.rows (row :: rows)).row? = (Row.stored row).toOption := rfl

def Reply.IdTaken (reply : Reply) : Prop :=
  ∃ refusal, reply = .failed (.refused refusal) ∧ refusal.violation = .unique ∧ refusal.constraint = some StoreError.idIndex

theorem Reply.IdTaken.row?_eq_none {reply : Reply} (h : reply.IdTaken) : reply.row? = none := by
  obtain ⟨refusal, rfl, -⟩ := h
  rfl

/-- A reading of a row that fails on nothing but the row. -/
def Undecoded (x : Except DatabaseError α) : Prop :=
  ∀ cause, x = .error cause → ∃ column reason, cause = .undecodable column reason

theorem Undecoded.bind {x : Except DatabaseError α} {f : α → Except DatabaseError β} (hx : Undecoded x)
    (hf : ∀ a, Undecoded (f a)) : Undecoded (x >>= f) := by
  intro cause h
  cases x with
  | ok a => exact hf a cause h
  | error e =>
    cases h
    exact hx cause rfl

theorem undecoded_pure (a : α) : Undecoded (pure a) := nofun

namespace Row

variable (row : Row) (index : Nat) (column : String)

theorem undecoded_cell : Undecoded (row.cell index column) := by
  intro cause h
  unfold cell at h
  split at h
  · cases h
  · cases h
    exact ⟨_, _, rfl⟩

theorem undecoded_text : Undecoded (row.text index column) := by
  refine (undecoded_cell row index column).bind fun cell cause h => ?_
  cases cell <;> cases h <;> exact ⟨_, _, rfl⟩

theorem undecoded_optionalText : Undecoded (row.optionalText index column) := by
  refine (undecoded_cell row index column).bind fun cell cause h => ?_
  cases cell <;> cases h <;> exact ⟨_, _, rfl⟩

theorem undecoded_stored : Undecoded row.stored :=
  (undecoded_text row 0 "0").bind fun _ => (undecoded_optionalText row 1 "1").bind fun _ => undecoded_pure _

end Row

/-- A database that answers every statement as was laid down before, BEGIN and COMMIT included, and notes what it was
sent. -/
structure Rehearsed where
  access : Access
  replies : Nat → Reply
  sent : List Statement

instance : Database Rehearsed where
  acquire d := (d.access, d)
  send statement d :=
    (d.replies 0, { d with replies := fun n => d.replies (n + 1), sent := d.sent ++ [statement] })
  release d := d

end Database

open Database (Rehearsed Statement)

namespace DatabaseStore

def Outage (limit : Duration) (cause : StoreError) : Prop :=
  (∃ failure, cause = .database failure) ∨ cause = .timeout limit

theorem Outage.ne_duplicateId {limit : Duration} {cause : StoreError} (h : Outage limit cause) (id : String) :
    cause ≠ .duplicateId id := by
  rintro rfl
  rcases h with ⟨failure, heq⟩ | heq <;> cases heq

/-- What a failure says of a statement about an id. -/
structure Explains (limit : Duration) (id : String) (reply : Database.Reply) (cause : StoreError) : Prop where
  duplicate_iff (other : String) : cause = .duplicateId other ↔ reply.IdTaken ∧ other = id
  kind : (∃ other, cause = .duplicateId other) ∨ Outage limit cause

theorem explains_ofDatabase (limit : Duration) (id : String) (cause : Database.DatabaseError) :
    Explains limit id (.failed cause) (.ofDatabase id cause) := by
  cases cause with
  | refused refusal =>
    unfold StoreError.ofDatabase
    dsimp only
    by_cases htaken : refusal.violation = .unique ∧ refusal.constraint = some StoreError.idIndex
    · rw [if_pos htaken]
      refine ⟨fun other => ?_, .inl ⟨id, rfl⟩⟩
      constructor
      · intro heq
        exact ⟨⟨refusal, rfl, htaken⟩, (StoreError.duplicateId.inj heq).symm⟩
      · rintro ⟨-, rfl⟩
        rfl
    · rw [if_neg htaken]
      refine ⟨fun other => iff_of_false nofun ?_, .inr (.inl ⟨_, rfl⟩)⟩
      rintro ⟨⟨refusal', heq, htaken'⟩, -⟩
      cases heq
      exact htaken htaken'
  | _ =>
    refine ⟨fun other => iff_of_false nofun ?_, .inr (.inl ⟨_, rfl⟩)⟩
    rintro ⟨⟨refusal, heq, -⟩, -⟩
    cases heq

theorem explains_of_not_failed {limit : Duration} {id : String} {reply : Database.Reply} {cause : StoreError}
    (hreply : ∀ failure, reply ≠ .failed failure) (hcause : Outage limit cause) : Explains limit id reply cause := by
  refine ⟨fun other => iff_of_false (hcause.ne_duplicateId other) ?_, .inr hcause⟩
  rintro ⟨⟨refusal, heq, -⟩, -⟩
  exact hreply _ heq

section Upsert

variable {δ : Type} [Database δ] {s : DatabaseStore δ} {e : Entry} {d : δ} {reply : Database.Reply}

theorem send_of_stalled {limit : Duration} {explain : Database.DatabaseError → StoreError} {statement : Statement}
    (hsend : Database.send statement s.database = (.stalled, d)) :
    (send limit explain statement).Ends s (.error (.timeout limit)) { s with database := d } := by
  unfold Action.Ends Action.run send
  rw [hsend]
  exact ⟨rfl, rfl⟩

theorem send_cases (limit : Duration) {statement : Statement}
    (hsend : Database.send statement s.database = (reply, d)) :
    (reply.isDone = true ∧ (send limit .database statement).Ends s (.ok reply) { s with database := d }) ∨
    reply.isDone = false ∧ ∃ cause, Outage limit cause ∧
      (send limit .database statement).Ends s (.error cause) { s with database := d } := by
  cases reply with
  | rows | affected => exact .inl ⟨rfl, send_of_done hsend rfl⟩
  | failed failure => exact .inr ⟨rfl, _, .inl ⟨failure, rfl⟩, send_of_failed hsend⟩
  | stalled => exact .inr ⟨rfl, _, .inr rfl, send_of_stalled hsend⟩

theorem upsert_cases (hsend : Database.send (.upsert e) s.database = (reply, d)) :
    (∃ row, reply.row? = some row ∧ (upsert e).Ends s (.ok row) { s with database := d }) ∨
    reply.row? = none ∧ ∃ cause, Explains s.queryLimit e.id reply cause ∧
      (upsert e).Ends s (.error cause) { s with database := d } := by
  cases reply with
  | failed failure => exact .inr ⟨rfl, _, explains_ofDatabase _ _ _, upsert_of_failed hsend⟩
  | stalled =>
    refine .inr ⟨rfl, _, explains_of_not_failed nofun (.inr rfl), Action.ends_state_bind.mpr ?_⟩
    exact (send_of_stalled hsend).bind_error_iff.mpr ⟨rfl, rfl⟩
  | affected n =>
    refine .inr ⟨rfl, _, explains_of_not_failed nofun (.inl ⟨.rowNotFound, rfl⟩), Action.ends_state_bind.mpr ?_⟩
    exact (send_of_done hsend rfl).bind ⟨rfl, rfl⟩
  | rows rows =>
    cases rows with
    | nil =>
      refine .inr ⟨rfl, _, explains_of_not_failed nofun (.inl ⟨.rowNotFound, rfl⟩), Action.ends_state_bind.mpr ?_⟩
      exact (send_of_done hsend rfl).bind ⟨rfl, rfl⟩
    | cons row rows =>
      have hends := upsert_of_row hsend
      rw [Database.Reply.row?_cons]
      cases hstored : Database.Row.stored row with
      | ok stored =>
        rw [hstored] at hends
        exact .inl ⟨stored, rfl, hends⟩
      | error failure =>
        rw [hstored] at hends
        obtain ⟨column, reason, rfl⟩ := Database.Row.undecoded_stored row failure hstored
        exact .inr ⟨rfl, _, explains_of_not_failed nofun (.inl ⟨.undecodable column reason, rfl⟩), hends⟩

end Upsert

variable {s : DatabaseStore Rehearsed} {batch : List Entry} {r : Except StoreError (List Entry)}

/-- The store after it has sent some statements, and the replies that are left then. -/
def telling (s : DatabaseStore Rehearsed) (statements : List Statement) : DatabaseStore Rehearsed :=
  { s with database := { s.database with
      replies := fun n => s.database.replies (n + statements.length)
      sent := s.database.sent ++ statements } }

theorem telling_nil (s : DatabaseStore Rehearsed) : s.telling [] = s := by
  unfold telling
  rw [List.append_nil]
  rfl

theorem telling_telling (s : DatabaseStore Rehearsed) (first rest : List Statement) :
    (s.telling first).telling rest = s.telling (first ++ rest) := by
  have hreplies : ∀ n, s.database.replies (n + rest.length + first.length) =
      s.database.replies (n + (first ++ rest).length) := by
    intro n
    rw [List.length_append]
    congr 1
    omega
  unfold telling
  simp only [List.append_assoc, hreplies]

theorem send_telling (s : DatabaseStore Rehearsed) (statement : Statement) :
    Database.send statement s.database = (s.database.replies 0, (s.telling [statement]).database) := rfl

/-- The answers to a batch: each item in its place, under the id and with the owner of the row that answered it if that
has another id. -/
def Stores (replies : Nat → Database.Reply) (batch stored : List Entry) : Prop :=
  stored.length = batch.length ∧ ∀ (i : Nat) (e : Entry) (id : String) (owner : Option String), batch[i]? = some e →
    (replies i).row? = some (id, owner) → stored[i]? = some (if id = e.id then e else { e with id, owner })

theorem stores_nil (replies : Nat → Database.Reply) : Stores replies [] [] := ⟨rfl, nofun⟩

theorem Stores.cons {replies : Nat → Database.Reply} {e : Entry} {rest stored : List Entry} {id : String}
    {owner : Option String} (hrow : (replies 0).row? = some (id, owner))
    (h : Stores (fun n => replies (n + 1)) rest stored) :
    Stores replies (e :: rest) ((if id = e.id then e else { e with id, owner }) :: stored) := by
  refine ⟨congrArg Nat.succ h.1, fun i item known owner' hitem hknown => ?_⟩
  cases i with
  | zero =>
    cases hitem
    rw [hrow] at hknown
    cases hknown
    rfl
  | succ i => exact h.2 i item known owner' hitem hknown

/-- The upserts of a batch are sent in order until one is not answered with a row. -/
theorem upsertAll_cases (s : DatabaseStore Rehearsed) (batch : List Entry) :
    (∃ stored, (∀ i < batch.length, (s.database.replies i).row? ≠ none) ∧ Stores s.database.replies batch stored ∧
      (upsertAll batch).Ends s (.ok stored) (s.telling (batch.map .upsert))) ∨
    ∃ i e cause, batch[i]? = some e ∧ (∀ j < i, (s.database.replies j).row? ≠ none) ∧
      (s.database.replies i).row? = none ∧ Explains s.queryLimit e.id (s.database.replies i) cause ∧
      (upsertAll batch).Ends s (.error cause) (s.telling ((batch.take (i + 1)).map .upsert)) := by
  induction batch generalizing s with
  | nil => exact .inl ⟨[], nofun, stores_nil _, rfl, s.telling_nil.symm⟩
  | cons e rest ih =>
    rcases upsert_cases (send_telling s (.upsert e)) with ⟨⟨id, owner⟩, hrow, hupsert⟩ | ⟨hrow, cause, hcause, hupsert⟩
    · rcases ih (s.telling [.upsert e]) with ⟨stored, hrows, hstored, hrest⟩ |
        ⟨i, item, cause, hitem, hrows, hlast, hcause, hrest⟩
      · rw [telling_telling] at hrest
        refine .inl ⟨_, Nat.forall_lt_succ_left.mpr ⟨hrow ▸ Option.some_ne_none _, hrows⟩, hstored.cons hrow, ?_⟩
        exact hupsert.bind (hrest.bind ⟨rfl, rfl⟩)
      · rw [telling_telling] at hrest
        refine .inr ⟨i + 1, item, cause, hitem, Nat.forall_lt_succ_left.mpr ⟨hrow ▸ Option.some_ne_none _, hrows⟩, hlast,
          hcause, ?_⟩
        exact hupsert.bind (Action.ends_bind.mpr (.inr ⟨cause, hrest, rfl⟩))
    · refine .inr ⟨0, e, cause, rfl, nofun, hrow, hcause, ?_⟩
      exact Action.ends_bind.mpr (.inr ⟨cause, hupsert, rfl⟩)

/-- The transaction has been begun, and so many items have been answered with rows. -/
def Proceeds (replies : Nat → Database.Reply) (n : Nat) : Prop :=
  (replies 0).isDone = true ∧ ∀ i < n, (replies (i + 1)).row? ≠ none

def plan (batch : List Entry) : List Statement := batch.map .upsert ++ [.commit]

/-- What is sent for a batch to which a database replies as laid down. -/
structure Sends (replies : Nat → Database.Reply) (batch : List Entry) (sent : List Statement) : Prop where
  begins : sent.head? = some .start
  /-- The upserts and COMMIT are sent in order, each of them if BEGIN and all upserts before it have succeeded. -/
  follows (k : Nat) (statement : Statement) :
    sent[k + 1]? = some statement ↔ (plan batch)[k]? = some statement ∧ Proceeds replies k
  commits_iff : .commit ∈ sent ↔ Proceeds replies batch.length

/-- How a batch goes to which a database replies as laid down. -/
structure Transacts (limit : Duration) (replies : Nat → Database.Reply) (batch : List Entry) (sent : List Statement)
    (r : Except StoreError (List Entry)) : Prop where
  sends : Sends replies batch sent
  ok_iff : (∃ stored, r = .ok stored) ↔ Proceeds replies batch.length ∧ (replies (batch.length + 1)).isDone = true
  answers {stored : List Entry} : r = .ok stored → Stores (fun i => replies (i + 1)) batch stored
  uncommitted {cause : StoreError} : r = .error cause → .commit ∈ sent → (replies (batch.length + 1)).isDone = false
  duplicate_iff (id : String) : r = .error (.duplicateId id) ↔
    ∃ i e, batch[i]? = some e ∧ e.id = id ∧ Proceeds replies i ∧ (replies (i + 1)).IdTaken
  kind {cause : StoreError} : r = .error cause → (∃ id, cause = .duplicateId id) ∨ Outage limit cause

section Script

variable {replies : Nat → Database.Reply} {i k n : Nat} {id : String} {statement : Statement} {sent : List Statement}
  {stored : List Entry} {cause : StoreError} {limit : Duration}

theorem Proceeds.eq_of_none (hi : Proceeds replies i) (hlast : (replies (i + 1)).row? = none) (hk : Proceeds replies k)
    (hlast' : (replies (k + 1)).row? = none) : i = k := by
  rcases Nat.lt_trichotomy i k with hlt | heq | hlt
  · exact absurd hlast (hk.2 i hlt)
  · exact heq
  · exact absurd hlast' (hi.2 k hlt)

theorem Proceeds.mono (h : Proceeds replies n) (hle : k ≤ n) : Proceeds replies k :=
  ⟨h.1, fun i hi => h.2 i (hi.trans_le hle)⟩

theorem proceeds_iff_of_none (hi : Proceeds replies i) (hlast : (replies (i + 1)).row? = none) :
    Proceeds replies k ↔ k < i + 1 :=
  ⟨fun hk => Nat.lt_succ_iff.mpr (Nat.not_lt.mp fun hlt => hk.2 i hlt hlast), fun hlt => hi.mono (Nat.le_of_lt_succ hlt)⟩

theorem length_plan (batch : List Entry) : (plan batch).length = batch.length + 1 := by
  rw [plan, List.length_append, List.length_map, List.length_singleton]

theorem commit_of_plan (h : (plan batch)[k]? = some .commit) : k = batch.length := by
  unfold plan at h
  rcases Nat.lt_trichotomy k (batch.map Statement.upsert).length with hlt | heq | hlt
  · rw [List.getElem?_append_left hlt, List.getElem?_map] at h
    obtain ⟨e, -, heq⟩ := Option.map_eq_some_iff.mp h
    cases heq
  · rw [heq, List.length_map]
  · rw [List.getElem?_append_right hlt.le, List.getElem?_eq_none] at h
    · cases h
    · rw [List.length_singleton]
      omega

theorem plan_commit (batch : List Entry) : (plan batch)[batch.length]? = some .commit := by
  unfold plan
  rw [List.getElem?_append_right (by simp)]
  simp

theorem sends_take {m : Nat} (h : ∀ k ≤ batch.length, Proceeds replies k ↔ k < m) :
    Sends replies batch (.start :: (plan batch).take m) := by
  have hfollows : ∀ k statement, (Statement.start :: (plan batch).take m)[k + 1]? = some statement ↔
      (plan batch)[k]? = some statement ∧ Proceeds replies k := by
    intro k statement
    rw [List.getElem?_cons_succ, List.getElem?_take]
    by_cases hk : k ≤ batch.length
    · rw [h k hk]
      by_cases hlt : k < m <;> simp [hlt]
    · have hnone : (plan batch)[k]? = none := by
        rw [List.getElem?_eq_none]
        rw [length_plan]
        omega
      simp [hnone]
  refine ⟨rfl, hfollows, ?_⟩
  constructor
  · intro hmem
    obtain ⟨j, hj⟩ := List.mem_iff_getElem?.mp hmem
    cases j with
    | zero => cases hj
    | succ k =>
      obtain ⟨hplan, hproceeds⟩ := (hfollows k _).mp hj
      exact commit_of_plan hplan ▸ hproceeds
  · intro hproceeds
    exact List.mem_of_getElem? ((hfollows _ _).mpr ⟨plan_commit batch, hproceeds⟩)

theorem not_idTaken (h : Proceeds replies batch.length) :
    ¬ ∃ i e, batch[i]? = some e ∧ e.id = id ∧ Proceeds replies i ∧ (replies (i + 1)).IdTaken := by
  rintro ⟨i, e, hitem, -, -, htaken⟩
  exact h.2 i (List.getElem?_eq_some_iff.mp hitem).1 htaken.row?_eq_none

theorem transacts_of_not_begun (hbegin : (replies 0).isDone = false) (hcause : Outage limit cause) :
    Transacts limit replies batch [.start] (.error cause) := by
  have hnever : ∀ k, ¬ Proceeds replies k := fun k h => Bool.false_ne_true (hbegin ▸ h.1)
  have hsends : Sends replies batch [.start] := sends_take (m := 0) fun k _ => iff_of_false (hnever k) (Nat.not_lt_zero k)
  refine ⟨hsends, iff_of_false nofun fun h => hnever _ h.1, nofun, ?_, ?_, fun h => .inr (Except.error.inj h ▸ hcause)⟩
  · intro _ _ hcommit
    exact absurd (hsends.commits_iff.mp hcommit) (hnever _)
  · intro id
    exact iff_of_false (fun h => hcause.ne_duplicateId id (Except.error.inj h))
      fun ⟨_, _, _, _, hproceeds, _⟩ => hnever _ hproceeds

theorem transacts_of_refused {e : Entry} (hitem : batch[i]? = some e) (hproceeds : Proceeds replies i)
    (hlast : (replies (i + 1)).row? = none) (hcause : Explains limit e.id (replies (i + 1)) cause) :
    Transacts limit replies batch (.start :: (batch.take (i + 1)).map .upsert) (.error cause) := by
  have hi : i < batch.length := (List.getElem?_eq_some_iff.mp hitem).1
  have htake : (batch.take (i + 1)).map Statement.upsert = (plan batch).take (i + 1) := by
    unfold plan
    rw [List.take_append_of_le_length (by rw [List.length_map]; exact hi), List.map_take]
  have hsends : Sends replies batch (.start :: (batch.take (i + 1)).map .upsert) := by
    rw [htake]
    exact sends_take fun k _ => proceeds_iff_of_none hproceeds hlast
  have hincomplete : ¬ Proceeds replies batch.length := fun h => h.2 i hi hlast
  refine ⟨hsends, iff_of_false nofun fun h => hincomplete h.1, nofun, ?_, ?_, fun h => Except.error.inj h ▸ hcause.kind⟩
  · intro _ _ hcommit
    exact absurd (hsends.commits_iff.mp hcommit) hincomplete
  · intro id
    rw [Except.error.injEq, hcause.duplicate_iff]
    constructor
    · rintro ⟨htaken, rfl⟩
      exact ⟨i, e, hitem, rfl, hproceeds, htaken⟩
    · rintro ⟨k, x, hx, rfl, hk, htaken⟩
      obtain rfl := hproceeds.eq_of_none hlast hk htaken.row?_eq_none
      rw [hitem] at hx
      cases hx
      exact ⟨htaken, rfl⟩

theorem sends_plan (hall : Proceeds replies batch.length) : Sends replies batch (.start :: plan batch) := by
  rw [← List.take_length (l := plan batch), length_plan]
  exact sends_take fun k hk => iff_of_true (hall.mono hk) (Nat.lt_succ_of_le hk)

theorem transacts_of_not_committed (hall : Proceeds replies batch.length)
    (hcommit : (replies (batch.length + 1)).isDone = false) (hcause : Outage limit cause) :
    Transacts limit replies batch (.start :: plan batch) (.error cause) := by
  refine ⟨sends_plan hall, iff_of_false nofun fun h => Bool.false_ne_true (hcommit ▸ h.2), nofun, fun _ _ => hcommit, ?_,
    fun h => .inr (Except.error.inj h ▸ hcause)⟩
  exact fun id => iff_of_false (fun h => hcause.ne_duplicateId id (Except.error.inj h)) (not_idTaken hall)

theorem transacts_of_committed (hall : Proceeds replies batch.length)
    (hcommit : (replies (batch.length + 1)).isDone = true) (hstored : Stores (fun i => replies (i + 1)) batch stored) :
    Transacts limit replies batch (.start :: plan batch) (.ok stored) := by
  refine ⟨sends_plan hall, iff_of_true ⟨stored, rfl⟩ ⟨hall, hcommit⟩, ?_, nofun, ?_, nofun⟩
  · rintro _ ⟨⟩
    exact hstored
  · exact fun id => iff_of_false nofun (not_idTaken hall)

end Script

/-- Why a store has no connection within the time that a call may take. -/
inductive Unconnected (s : DatabaseStore Rehearsed) : StoreError → Prop where
  | closed (hclosed : s.closed = true) : Unconnected s (.database .poolClosed)
  | failed {cause : Database.DatabaseError} (hopen : s.closed = false) (haccess : s.database.access = .failed cause) :
      Unconnected s (.database cause)
  | late (hopen : s.closed = false) (haccess : s.database.access = .stalled) : Unconnected s (.timeout s.queryLimit)

theorem connected_or_not (s : DatabaseStore Rehearsed) :
    (s.closed = false ∧ s.database.access = .granted) ∨ ∃ cause, s.Unconnected cause := by
  cases hclosed : s.closed with
  | true => exact .inr ⟨_, .closed hclosed⟩
  | false =>
    cases haccess : s.database.access with
    | granted => exact .inl ⟨rfl, rfl⟩
    | failed cause => exact .inr ⟨_, .failed hclosed haccess⟩
    | stalled => exact .inr ⟨_, .late hclosed haccess⟩

theorem acquire_rehearsed {access : Database.Access} (haccess : s.database.access = access) :
    Database.acquire s.database = (access, s.database) := haccess ▸ rfl

theorem bounded_rehearsed {limit : DatabaseStore Rehearsed → Duration} {explain : Database.DatabaseError → StoreError}
    {a : Action StoreError (DatabaseStore Rehearsed) (List Entry)} {s' : DatabaseStore Rehearsed}
    (hopen : s.closed = false) (hgranted : s.database.access = .granted) (ha : a.Ends s r s') :
    (bounded limit explain a).Ends s r s' :=
  bounded_ends hopen (acquire_rehearsed hgranted) ha

theorem createBatch_unconnected {cause : StoreError} (h : s.Unconnected cause) (batch : List Entry) :
    (createBatch batch).Ends s (.error cause) s := by
  apply bounded_of_refused
  cases h with
  | closed hclosed => exact acquire_of_closed hclosed
  | failed hopen haccess => exact acquire_of_open hopen (acquire_rehearsed haccess)
  | late hopen haccess => exact acquire_of_open hopen (acquire_rehearsed haccess)

theorem createBatch_connected (hopen : s.closed = false) (hgranted : s.database.access = .granted) (batch : List Entry) :
    ∃ sent r, (createBatch batch).Ends s r (s.telling sent) ∧
      Transacts s.queryLimit s.database.replies batch sent r := by
  rcases send_cases s.queryLimit (send_telling s .start) with ⟨hbegin, hstart⟩ | ⟨hbegin, cause, hcause, hstart⟩
  · rcases upsertAll_cases (s.telling [.start]) batch with ⟨stored, hrows, hstored, hupserts⟩ |
      ⟨i, e, cause, hitem, hrows, hlast, hcause, hupserts⟩
    · have hcommits := send_telling (s.telling (.start :: batch.map .upsert)) .commit
      have hreply : (s.telling (.start :: batch.map .upsert)).database.replies 0 =
          s.database.replies (batch.length + 1) := by
        show s.database.replies (0 + (batch.map Statement.upsert).length + 1) = _
        rw [List.length_map, Nat.zero_add]
      rw [telling_telling] at hupserts
      rw [hreply, telling_telling] at hcommits
      rcases send_cases s.queryLimit hcommits with ⟨hcommit, hsent⟩ | ⟨hcommit, cause, hcause, hsent⟩
      · refine ⟨_, _, bounded_rehearsed hopen hgranted ?_, transacts_of_committed ⟨hbegin, hrows⟩ hcommit hstored⟩
        exact Action.ends_state_bind.mpr (hstart.bind (hupserts.bind (hsent.bind ⟨rfl, rfl⟩)))
      · refine ⟨_, _, bounded_rehearsed hopen hgranted ?_, transacts_of_not_committed ⟨hbegin, hrows⟩ hcommit hcause⟩
        exact Action.ends_state_bind.mpr (hstart.bind (hupserts.bind (hsent.bind_error_iff.mpr ⟨rfl, rfl⟩)))
    · rw [telling_telling] at hupserts
      refine ⟨_, _, bounded_rehearsed hopen hgranted ?_, transacts_of_refused hitem ⟨hbegin, hrows⟩ hlast hcause⟩
      exact Action.ends_state_bind.mpr (hstart.bind (hupserts.bind_error_iff.mpr ⟨rfl, rfl⟩))
  · refine ⟨_, _, bounded_rehearsed hopen hgranted ?_, transacts_of_not_begun hbegin hcause⟩
    exact Action.ends_state_bind.mpr (hstart.bind_error_iff.mpr ⟨rfl, rfl⟩)

/-- Whatever a database replies, the statements of a batch are sent one after the other as long as each succeeds, COMMIT
is sent only after all of them, and the caller hears of a success only if that succeeded too. Without a connection
nothing is sent, and the caller hears why there is none: if it is only late, the call has run into its limit. -/
theorem createBatch_transacts (s : DatabaseStore Rehearsed) (batch : List Entry) :
    ∃ sent r, (Store.createBatch batch).Ends s r (s.telling sent) ∧
      ((s.closed = false ∧ s.database.access = .granted ∧ Transacts s.queryLimit s.database.replies batch sent r) ∨
        ∃ cause, s.Unconnected cause ∧ sent = [] ∧ r = .error cause) := by
  rcases connected_or_not s with ⟨hopen, hgranted⟩ | ⟨cause, hcause⟩
  · obtain ⟨sent, r, hends, htransacts⟩ := createBatch_connected hopen hgranted batch
    exact ⟨sent, r, hends, .inl ⟨hopen, hgranted, htransacts⟩⟩
  · have hends := createBatch_unconnected hcause batch
    exact ⟨[], _, s.telling_nil.symm ▸ hends, .inr ⟨cause, hcause, rfl, rfl⟩⟩

example :
    let known : Database.Reply := .rows [[.text "k", .text "o"]]
    let replies : Nat → Database.Reply := fun
      | 0 => .affected 0
      | 1 => known
      | _ => .failed (Database.idTaken "duplicate key")
    let s : DatabaseStore Rehearsed := ⟨⟨.granted, replies, []⟩, false, .ofSeconds 5, .ofSeconds 2⟩
    let batch := [Entry.create "a" "t" none none, Entry.create "b" "u" none none]
    ((createBatch batch).run s).outcome = .error (.duplicateId "b") ∧
      ((createBatch batch).run s).state.database.sent = .start :: batch.map .upsert :=
  ⟨rfl, rfl⟩

end DatabaseStore
end ShortLinks
