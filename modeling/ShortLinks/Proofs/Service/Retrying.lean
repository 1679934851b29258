import ShortLinks.Proofs.Service.Attempts

/-!
# Trying again

What the service asks of a store, and what it makes of the answers, whatever these are. An exchange is what passes between
the two from one attempt on: one call for each identifier that is drawn, until an answer other than that the identifier
is taken settles the request, or no attempt is left.
-/

set_option autoImplicit false

namespace ShortLinks

namespace ScriptedStore

variable {σ α : Type} {s s' : ScriptedStore σ}

theorem carryOut_calls {prepared : Prepared α} {own : String} {real : Action StoreError σ α} {r : Except StoreError α}
    (h : (carryOut prepared own real).Ends s r s') : s'.calls = s.calls := by
  cases prepared with
  | pass =>
    obtain ⟨inner, -, rfl⟩ := Action.ends_onPart.mp h
    rfl
  | fail | clash => rw [(Action.ends_fail.mp h).2]
  | give => rw [(Action.ends_pure.mp h).2]

theorem answer_calls {part : Script → List (Prepared α)} {replace : List (Prepared α) → Script → Script} {call : Call}
    {own : String} {real : Action StoreError σ α} {r : Except StoreError α}
    (h : (answer part replace call own real).Ends s r s') : s'.calls = s.calls ++ [call] := by
  have hset := Action.ends_state_bind.mp h
  have hcarried := Action.ends_set_bind.mp hset
  exact carryOut_calls hcarried

end ScriptedStore

def Call.isAdd : Call → Bool
  | .add _ => true
  | _ => false

structure Asked {σ : Type} [Store σ] (s : ScriptedStore σ) (calls : List Call) (replies : List (Except StoreError Reply))
    (s' : ScriptedStore σ) : Prop where
  calls_eq : s'.calls = s.calls ++ calls
  each_eq : Action.each Call.perform calls s = (replies, s')

namespace Asked

variable {σ α : Type} [Store σ] {s s' s'' : ScriptedStore σ} {calls : List Call} {replies : List (Except StoreError Reply)}
  {e : Entry} {id : String} {batch : List Entry}

theorem nil (s : ScriptedStore σ) : Asked s [] [] s := ⟨(List.append_nil _).symm, rfl⟩

theorem cons {call : Call} {f : α → Reply} {a : Action StoreError (ScriptedStore σ) α} {r : Except StoreError α}
    (hcall : call.perform = f <$> a) (hends : a.Ends s r s') (hnoted : s'.calls = s.calls ++ [call])
    (h : Asked s' calls replies s'') : Asked s (call :: calls) (r.map f :: replies) s'' := by
  have hperform : call.perform.Ends s (r.map f) s' := by
    rw [hcall]
    exact Action.ends_map.mpr ⟨r, hends, rfl⟩
  constructor
  · rw [h.calls_eq, hnoted, List.append_assoc]
    rfl
  · show ((call.perform.run s).outcome :: (Action.each Call.perform calls (call.perform.run s).state).1,
      (Action.each Call.perform calls (call.perform.run s).state).2) = _
    rw [hperform.1, hperform.2, h.each_eq]

theorem add {r : Except StoreError String} (hends : (Store.add e).Ends s r s') (h : Asked s' calls replies s'') :
    Asked s (.add e :: calls) (r.map .id :: replies) s'' :=
  .cons rfl hends (ScriptedStore.answer_calls hends) h

theorem getById {r : Except StoreError (Option Entry)} (hends : (Store.getById id).Ends s r s')
    (h : Asked s' calls replies s'') : Asked s (.getById id :: calls) (r.map .entry :: replies) s'' :=
  .cons rfl hends (ScriptedStore.answer_calls hends) h

theorem createBatch {r : Except StoreError (List Entry)} (hends : (Store.createBatch batch).Ends s r s')
    (h : Asked s' calls replies s'') : Asked s (.createBatch batch :: calls) (r.map .stored :: replies) s'' :=
  .cons rfl hends (ScriptedStore.answer_calls hends) h

end Asked

namespace Service

/-- What passes between the service and a store to shorten one target, with `n` attempts left and a random source from
which the identifiers are drawn, and what comes of it. -/
inductive Exchange (length : Nat) (owner target : String) : Nat → Random → List Call → List (Except StoreError Reply) →
    Except ServiceError CreateOutcome → Prop where
  | created {n : Nat} {random : Random} {id : String} (hid : (Identifier.generate length random).1 = .ok id)
      (reply : String) : Exchange length owner target (n + 1) random [.add (requested owner target id none)]
      [.ok (.id reply)] (.ok (.created (requested owner target id none)))
  | existing {n : Nat} {random : Random} {id : String} (hid : (Identifier.generate length random).1 = .ok id)
      (known : String) (e : Entry) : Exchange length owner target (n + 1) random
      [.add (requested owner target id none), .getById known]
      [.error (.createConflict known), .ok (.entry (some e))] (.ok (.existing e))
  /-- The entry that is in the way is gone when it is looked up. -/
  | vanished {n : Nat} {random : Random} {id : String} (hid : (Identifier.generate length random).1 = .ok id)
      (known : String) : Exchange length owner target (n + 1) random
      [.add (requested owner target id none), .getById known]
      [.error (.createConflict known), .ok (.entry none)] (.ok (.existing (requested owner target known none)))
  | unread {n : Nat} {random : Random} {id : String} (hid : (Identifier.generate length random).1 = .ok id)
      (known : String) (cause : StoreError) : Exchange length owner target (n + 1) random
      [.add (requested owner target id none), .getById known]
      [.error (.createConflict known), .error cause] (.error (.storage cause))
  | failed {n : Nat} {random : Random} {id : String} (hid : (Identifier.generate length random).1 = .ok id)
      {cause : StoreError} (hconflict : ∀ known, cause ≠ .createConflict known)
      (hduplicate : ∀ taken, cause ≠ .duplicateId taken) : Exchange length owner target (n + 1) random
      [.add (requested owner target id none)] [.error cause] (.error (.storage cause))
  | retried {n : Nat} {random : Random} {id : String} (hid : (Identifier.generate length random).1 = .ok id)
      (taken : String) {calls : List Call} {replies : List (Except StoreError Reply)}
      {r : Except ServiceError CreateOutcome}
      (hrest : Exchange length owner target n (Identifier.generate length random).2 calls replies r) :
      Exchange length owner target (n + 1) random (.add (requested owner target id none) :: calls)
      (.error (.duplicateId taken) :: replies) r
  | exhausted (random : Random) : Exchange length owner target 0 random [] [] (.error .tooManyCollisions)
  | undrawn {n : Nat} {random : Random} {cause : Identifier.DrawError}
      (hid : (Identifier.generate length random).1 = .error cause) :
      Exchange length owner target (n + 1) random [] [] (.error (.noIdentifier cause.message))

/-- What is offered to the store for a list of targets: one entry for each, under newly drawn identifiers. -/
structure Offer (length : Nat) (owner : String) (items : List Submission) (random : Random) (batch : List Entry) :
    Prop where
  drawn : (Identifier.generateDistinct items.length length random).1 = .ok (batch.map Entry.id)
  nodup : (batch.map Entry.id).Nodup
  targets_eq : batch.map Entry.target = items.map Submission.target
  correlations_eq : batch.map Entry.correlation = items.map Submission.correlation
  owner_eq (e : Entry) : e ∈ batch → e.owner = (if owner = "" then none else some owner) ∧ e.deleted = false

inductive BatchExchange (length : Nat) (owner : String) (items : List Submission) : Nat → Random → List Call →
    List (Except StoreError Reply) → Except ServiceError (List Entry) → Prop where
  | stored {n : Nat} {random : Random} {batch : List Entry} (hoffer : Offer length owner items random batch)
      (answers : List Entry) : BatchExchange length owner items (n + 1) random [.createBatch batch]
      [.ok (.stored answers)] (.ok answers)
  | failed {n : Nat} {random : Random} {batch : List Entry} (hoffer : Offer length owner items random batch)
      {cause : StoreError} (hduplicate : ∀ taken, cause ≠ .duplicateId taken) :
      BatchExchange length owner items (n + 1) random [.createBatch batch] [.error cause] (.error (.storage cause))
  | retried {n : Nat} {random : Random} {batch : List Entry} (hoffer : Offer length owner items random batch)
      (taken : String) {calls : List Call} {replies : List (Except StoreError Reply)}
      {r : Except ServiceError (List Entry)}
      (hrest : BatchExchange length owner items n (Identifier.generateDistinct items.length length random).2 calls
        replies r) :
      BatchExchange length owner items (n + 1) random (.createBatch batch :: calls)
      (.error (.duplicateId taken) :: replies) r
  | exhausted (random : Random) : BatchExchange length owner items 0 random [] [] (.error .tooManyBatchCollisions)
  | undrawn {n : Nat} {random : Random} {cause : Identifier.DrawError}
      (hids : (Identifier.generateDistinct items.length length random).1 = .error cause) :
      BatchExchange length owner items (n + 1) random [] [] (.error (.noIdentifier cause.message))

variable {length n : Nat} {owner target : String} {items : List Submission} {random : Random} {calls : List Call}
  {replies : List (Except StoreError Reply)}

theorem Exchange.adds_le {r : Except ServiceError CreateOutcome} (h : Exchange length owner target n random calls replies r) :
    (calls.filter Call.isAdd).length ≤ n := by
  induction h with
  | retried _ _ _ ih => exact Nat.succ_le_succ ih
  | exhausted | undrawn => exact Nat.zero_le _
  | created | existing | vanished | unread | failed => exact Nat.succ_le_succ (Nat.zero_le _)

theorem BatchExchange.calls_le {r : Except ServiceError (List Entry)}
    (h : BatchExchange length owner items n random calls replies r) : calls.length ≤ n := by
  induction h with
  | retried _ _ _ ih => exact Nat.succ_le_succ ih
  | exhausted | undrawn => exact Nat.zero_le _
  | stored | failed => exact Nat.succ_le_succ (Nat.zero_le _)

theorem offer_batchEntries {ids : List String}
    (hdrawn : (Identifier.generateDistinct items.length length random).1 = .ok ids) :
    Offer length owner items random (batchEntries owner items ids) where
  drawn := by rw [map_id_batchEntries (Identifier.length_generateDistinct hdrawn), hdrawn]
  nodup := by
    rw [map_id_batchEntries (Identifier.length_generateDistinct hdrawn)]
    exact Identifier.nodup_generateDistinct hdrawn
  targets_eq := map_target_batchEntries (Identifier.length_generateDistinct hdrawn)
  correlations_eq := map_correlation_batchEntries (Identifier.length_generateDistinct hdrawn)
  owner_eq e he := by
    obtain ⟨⟨item, id⟩, -, rfl⟩ := List.mem_map.mp he
    dsimp only
    rw [Entry.create_eq_requested]
    exact ⟨rfl, rfl⟩

variable {σ : Type} [Store σ] {s s' : Service (ScriptedStore σ)}

theorem existing_exchange {id known : String} {r : Except ServiceError CreateOutcome}
    (hid : (Identifier.generate length random).1 = .ok id)
    (hends : (existing (requested owner target id none) known).Ends s r s') :
    ∃ reply, Asked s.pipeline.store [.getById known] [reply] s'.pipeline.store ∧
      Exchange length owner target (n + 1) random [.add (requested owner target id none), .getById known]
        [.error (.createConflict known), reply] r := by
  rcases Action.ends_bind.mp hends with ⟨found, s₁, hget, hrest⟩ | ⟨e, hget, rfl⟩
  · obtain ⟨r₀, store, hcall, heq, rfl⟩ := onStore_ends hget
    cases r₀ with
    | error cause => cases heq
    | ok reply =>
      cases heq
      refine ⟨.ok (.entry found), ?_⟩
      cases found with
      | some x =>
        obtain ⟨rfl, rfl⟩ := Action.ends_pure.mp hrest
        exact ⟨.getById hcall (.nil _), .existing hid known x⟩
      | none =>
        obtain ⟨rfl, rfl⟩ := Action.ends_pure.mp hrest
        exact ⟨.getById hcall (.nil _), .vanished hid known⟩
  · obtain ⟨r₀, store, hcall, heq, rfl⟩ := onStore_ends hget
    cases r₀ with
    | ok reply => cases heq
    | error cause =>
      cases heq
      exact ⟨.error cause, .getById hcall (.nil _), .unread hid known cause⟩

theorem addFresh_exchange {r : Except ServiceError CreateOutcome} (hends : (addFresh owner target n).Ends s r s') :
    ∃ calls replies, Asked s.pipeline.store calls replies s'.pipeline.store ∧
      Exchange s.shortIdLength owner target n s.random calls replies r := by
  induction n generalizing s with
  | zero =>
    obtain ⟨rfl, rfl⟩ := Action.ends_fail.mp hends
    exact ⟨[], [], .nil _, .exhausted _⟩
  | succ n ih =>
    cases hdrawn : (Identifier.generate s.shortIdLength s.random).1 with
    | error cause =>
      obtain ⟨rfl, rfl⟩ := (addFresh_undrawn hdrawn).mp hends
      exact ⟨[], [], .nil _, .undrawn hdrawn⟩
    | ok id =>
      have hadd := Action.ends_run (Store.add (Entry.create id target (some owner) none)) s.pipeline.store
      generalize (Action.run _ s.pipeline.store).outcome = r₀ at hadd
      have hafter := (addFresh_attempt hdrawn hadd).mp hends
      rw [Entry.create_eq_requested] at hadd hafter
      cases r₀ with
      | ok reply =>
        obtain ⟨rfl, rfl⟩ := Action.ends_pure.mp hafter
        exact ⟨_, _, .add hadd (.nil _), .created hdrawn reply⟩
      | error cause =>
        cases cause with
        | createConflict known =>
          obtain ⟨reply, hasked, hexchange⟩ := existing_exchange hdrawn hafter
          exact ⟨_, _, .add hadd hasked, hexchange⟩
        | duplicateId taken =>
          -- the only answer after which the service goes on, from the source that the drawing left
          have hagain := Action.ends_emit_bind.mp hafter
          obtain ⟨calls, replies, hasked, hexchange⟩ := ih hagain
          exact ⟨_, _, .add hadd hasked, .retried hdrawn taken hexchange⟩
        | io | database | timeout | encoding =>
          obtain ⟨rfl, rfl⟩ := Action.ends_fail.mp hafter
          exact ⟨_, _, .add hadd (.nil _), .failed hdrawn nofun nofun⟩

theorem addBatchFresh_exchange {r : Except ServiceError (List Entry)}
    (hends : (addBatchFresh owner items n).Ends s r s') :
    ∃ calls replies, Asked s.pipeline.store calls replies s'.pipeline.store ∧
      BatchExchange s.shortIdLength owner items n s.random calls replies r := by
  induction n generalizing s with
  | zero =>
    obtain ⟨rfl, rfl⟩ := Action.ends_fail.mp hends
    exact ⟨[], [], .nil _, .exhausted _⟩
  | succ n ih =>
    cases hdrawn : (Identifier.generateDistinct items.length s.shortIdLength s.random).1 with
    | error cause =>
      obtain ⟨rfl, rfl⟩ := (addBatchFresh_undrawn hdrawn).mp hends
      exact ⟨[], [], .nil _, .undrawn hdrawn⟩
    | ok ids =>
      have hbatch := Action.ends_run (Store.createBatch (batchEntries owner items ids)) s.pipeline.store
      generalize (Action.run _ s.pipeline.store).outcome = r₀ at hbatch
      have hafter := (addBatchFresh_attempt hdrawn hbatch).mp hends
      have hoffer : Offer s.shortIdLength owner items s.random (batchEntries owner items ids) :=
        offer_batchEntries hdrawn
      cases r₀ with
      | ok answers =>
        obtain ⟨rfl, rfl⟩ := Action.ends_pure.mp hafter
        exact ⟨_, _, .createBatch hbatch (.nil _), .stored hoffer answers⟩
      | error cause =>
        cases cause with
        | duplicateId taken =>
          have hagain := Action.ends_emit_bind.mp hafter
          obtain ⟨calls, replies, hasked, hexchange⟩ := ih hagain
          exact ⟨_, _, .createBatch hbatch hasked, .retried hoffer taken hexchange⟩
        | createConflict | io | database | timeout | encoding =>
          obtain ⟨rfl, rfl⟩ := Action.ends_fail.mp hafter
          exact ⟨_, _, .createBatch hbatch (.nil _), .failed hoffer nofun⟩

/-- Whatever a store answers, and whatever is drawn, the requests for acceptable targets ask it as an exchange says and end
as it says. -/
theorem requests_exchange (s : Service (ScriptedStore σ)) (owner : String) :
    (∀ target : String, checkTarget target = .ok () →
      ∃ calls replies r s', (create owner target).Ends s r s' ∧ Asked s.pipeline.store calls replies s'.pipeline.store ∧
        Exchange s.shortIdLength owner target maxAttempts s.random calls replies r ∧
        (calls.filter Call.isAdd).length ≤ maxAttempts) ∧
    ∀ items : List Submission, items ≠ [] → (∀ item ∈ items, checkTarget item.target = .ok ()) →
      ∃ calls replies r s', (createBatch owner items).Ends s r s' ∧
        Asked s.pipeline.store calls replies s'.pipeline.store ∧
        BatchExchange s.shortIdLength owner items maxAttempts s.random calls replies r ∧ calls.length ≤ maxAttempts := by
  constructor
  · intro target hok
    rw [create_of_ok hok]
    have hends := Action.ends_run (addFresh owner target maxAttempts) s
    obtain ⟨calls, replies, hasked, hexchange⟩ := addFresh_exchange hends
    exact ⟨calls, replies, _, _, hends, hasked, hexchange, hexchange.adds_le⟩
  · intro items hne hok
    rw [createBatch_of_ok hne hok]
    have hends := Action.ends_run (addBatchFresh owner items maxAttempts) s
    obtain ⟨calls, replies, hasked, hexchange⟩ := addBatchFresh_exchange hends
    exact ⟨calls, replies, _, _, hends, hasked, hexchange, hexchange.calls_le⟩

/-- A store that says of the first two identifiers that they are taken, and then that it cannot be reached. -/
theorem scripted_requests_exchange :
    let taken : ScriptedStore MemoryStore :=
      ⟨.empty, { Script.empty with
        add := [.clash, .clash, .fail (.timeout (.ofSeconds 5))], createBatch := [.clash, .give []] }, []⟩
    let s : Service (ScriptedStore MemoryStore) := started taken Identifier.constantSource 8 16 2 4
    (∃ calls replies r s', (create "u" "http://[::]").Ends s r s' ∧ Asked taken calls replies s'.pipeline.store ∧
      Exchange 8 "u" "http://[::]" 10 Identifier.constantSource calls replies r) ∧
    ∃ calls replies r s', (createBatch "u" [⟨"http://[::]", some "c"⟩]).Ends s r s' ∧
      Asked taken calls replies s'.pipeline.store ∧
      BatchExchange 8 "u" [⟨"http://[::]", some "c"⟩] 10 Identifier.constantSource calls replies r := by
  intro taken s
  have hok : checkTarget "http://[::]" = .ok () := by decide +kernel
  constructor
  · obtain ⟨calls, replies, r, s', hends, hasked, hexchange, -⟩ := (requests_exchange s "u").1 "http://[::]" hok
    exact ⟨calls, replies, r, s', hends, hasked, hexchange⟩
  · have hall : ∀ item ∈ [(⟨"http://[::]", some "c"⟩ : Submission)], checkTarget item.target = .ok () := by
      intro item hitem
      rw [List.mem_singleton.mp hitem, hok]
    obtain ⟨calls, replies, r, s', hends, hasked, hexchange, -⟩ :=
      (requests_exchange s "u").2 [⟨"http://[::]", some "c"⟩] (List.cons_ne_nil _ _) hall
    exact ⟨calls, replies, r, s', hends, hasked, hexchange⟩

end Service
end ShortLinks
