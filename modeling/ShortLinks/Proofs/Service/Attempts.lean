import ShortLinks.Proofs.Service.Deduplication

/-!
# Attempts

Creating draws identifiers and asks the store, attempt after attempt. `Draws` says what successive drawings give; an
attempt for which nothing can be drawn ends the request, and what follows any other is decided by the answer of the store,
whatever store that is: `addFresh_attempt`, `addBatchFresh_attempt`.
-/

set_option autoImplicit false

namespace ShortLinks

/-- The entry that a request asks for; without a name its owner is anonymous. -/
def requested (owner target id : String) (correlation : Option String) : Entry :=
  { id, target, owner := if owner = "" then none else some owner, correlation, deleted := false }

theorem Entry.create_eq_requested (owner target id : String) (correlation : Option String) :
    Entry.create id target (some owner) correlation = requested owner target id correlation := by
  unfold Entry.create requested
  by_cases howner : owner = "" <;> simp [howner]

namespace Identifier

variable {α : Type} {f : Random → Except DrawError α × Random} {r r' : Random} {x : α} {xs ys : List α}

/-- Drawing time after time gives the values, in this order, and leaves a source. -/
inductive Draws (f : Random → Except DrawError α × Random) : Random → List α → Random → Prop where
  | nil (r : Random) : Draws f r [] r
  | cons {r r' : Random} {x : α} {xs : List α} (hx : (f r).1 = .ok x) (hrest : Draws f (f r).2 xs r') :
      Draws f r (x :: xs) r'

namespace Draws

theorem single (hx : (f r).1 = .ok x) : Draws f r [x] (f r).2 := .cons hx (.nil _)

theorem append_iff : Draws f r (xs ++ ys) r' ↔ ∃ between, Draws f r xs between ∧ Draws f between ys r' := by
  induction xs generalizing r with
  | nil =>
    constructor
    · intro h
      exact ⟨r, .nil r, h⟩
    · rintro ⟨between, hfirst, hrest⟩
      cases hfirst
      exact hrest
  | cons x xs ih =>
    constructor
    · intro h
      cases h with
      | cons hx hrest =>
        obtain ⟨between, hxs, hys⟩ := ih.mp hrest
        exact ⟨between, .cons hx hxs, hys⟩
    · rintro ⟨between, hfirst, hys⟩
      cases hfirst with
      | cons hx hxs => exact .cons hx (ih.mpr ⟨between, hxs, hys⟩)

theorem single_iff : Draws f r [x] r' ↔ (f r).1 = .ok x ∧ (f r).2 = r' := by
  constructor
  · intro h
    cases h with
    | cons hx hrest =>
      cases hrest
      exact ⟨hx, rfl⟩
  · rintro ⟨hx, rfl⟩
    exact single hx

theorem drawn_of_mem (h : Draws f r xs r') (hx : x ∈ xs) : ∃ before, (f before).1 = .ok x := by
  induction h with
  | nil => cases hx
  | @cons r r' y ys hy hrest ih =>
    rcases List.mem_cons.mp hx with rfl | hmem
    · exact ⟨r, hy⟩
    · exact ih hmem

end Draws

theorem drawDistinct_none (length fuel : Nat) (drawn : List String) (r : Random) :
    drawDistinct length fuel 0 drawn r = (.ok drawn, r) := by
  cases fuel <;> rfl

theorem generateDistinct_zero (length : Nat) (r : Random) : generateDistinct 0 length r = (.ok [], r) :=
  drawDistinct_none length r.patience [] r

def constantSource : Random := ⟨fun _ => Random.repeated [0], 0, 100⟩

end Identifier

namespace Service

open Identifier (Draws)

variable {σ : Type} {s s' : Service σ} {store : σ} {owner target id : String} {items : List Submission} {n : Nat}

def withRandom (s : Service σ) (random : Random) : Service σ := { s with random }

/-- Among what is drawn, and within the attempts there are, the first values are not free and the next one is. -/
structure FirstFree {α : Type} (f : Random → Except Identifier.DrawError α × Random) (free : α → Prop) (before : Random)
    (taken : List α) (x : α) (after : Random) : Prop where
  draws : Draws f before (taken ++ [x]) after
  within : taken.length < maxAttempts
  passed (y : α) : y ∈ taken → ¬ free y
  free : free x

theorem draw_fails {α : Type} {f : Random → Except Identifier.DrawError α × Random} {e : Identifier.DrawError}
    (h : (f s.random).1 = .error e) :
    (draw f).Ends s (.error (.noIdentifier e.message)) (s.withRandom (f s.random).2) := by
  refine ⟨?_, rfl⟩
  show (f s.random).1.mapError _ = _
  rw [h]
  rfl

theorem map_correlation_batchEntries {ids : List String} (h : ids.length = items.length) :
    (batchEntries owner items ids).map Entry.correlation = items.map Submission.correlation := by
  have hfirst : (items.zip ids).map Prod.fst = items := List.map_fst_zip (by omega)
  calc (batchEntries owner items ids).map Entry.correlation
      = ((items.zip ids).map Prod.fst).map Submission.correlation := by
        rw [batchEntries, List.map_map, List.map_map]
        rfl
    _ = items.map Submission.correlation := by rw [hfirst]

variable [Store σ]

theorem create_of_ok (hok : checkTarget target = .ok ()) :
    (create owner target : Action ServiceError (Service σ) CreateOutcome) = addFresh owner target maxAttempts := by
  unfold create
  rw [hok]

/-- What the service makes of the answer of the store to an entry, with `n` attempts left. -/
def afterAdd (owner target : String) (n : Nat) (e : Entry) :
    Except StoreError String → Action ServiceError (Service σ) CreateOutcome
  | .ok _ => pure (.created e)
  | .error (.createConflict id) => existing e id
  | .error (.duplicateId id) => do
    Action.emit (.idCollision (maxAttempts - n) id)
    addFresh owner target n
  | .error cause => Action.fail (.storage cause)

theorem addFresh_attempt {r₀ : Except StoreError String} {r : Except ServiceError CreateOutcome}
    (hdrawn : (Identifier.generate s.shortIdLength s.random).1 = .ok id)
    (hadd : (Store.add (Entry.create id target (some owner) none)).Ends s.pipeline.store r₀ store) :
    (addFresh owner target (n + 1)).Ends s r s' ↔
      (afterAdd owner target n (Entry.create id target (some owner) none) r₀).Ends
        ((s.withRandom (Identifier.generate s.shortIdLength s.random).2).withStore store) r s' := by
  have hdraw : drawShortId.Ends s (.ok id) (s.withRandom (Identifier.generate s.shortIdLength s.random).2) :=
    Action.ends_state_bind.mpr (draw_ok_iff.mpr ⟨hdrawn, rfl⟩)
  refine hdraw.bind_iff.trans (ends_attempt_bind.trans ?_)
  constructor
  · rintro ⟨r₁, store₁, hends, hrest⟩
    obtain ⟨rfl, rfl⟩ := hadd.unique hends
    exact hrest
  · intro hrest
    exact ⟨r₀, store, hadd, hrest⟩

theorem addFresh_undrawn {e : Identifier.DrawError} {r : Except ServiceError CreateOutcome}
    (hdrawn : (Identifier.generate s.shortIdLength s.random).1 = .error e) :
    (addFresh owner target (n + 1)).Ends s r s' ↔ r = .error (.noIdentifier e.message) ∧
      s' = s.withRandom (Identifier.generate s.shortIdLength s.random).2 := by
  have hdraw : drawShortId.Ends s (.error (.noIdentifier e.message))
      (s.withRandom (Identifier.generate s.shortIdLength s.random).2) :=
    Action.ends_state_bind.mpr (draw_fails hdrawn)
  exact hdraw.bind_error_iff

theorem createBatch_of_ok (hne : items ≠ []) (hok : ∀ item ∈ items, checkTarget item.target = .ok ()) :
    (createBatch owner items : Action ServiceError (Service σ) (List Entry)) = addBatchFresh owner items maxAttempts := by
  unfold createBatch
  rw [firstBadItem?_eq_none hok]
  exact if_neg hne

def afterBatch (owner : String) (items : List Submission) (n : Nat) :
    Except StoreError (List Entry) → Action ServiceError (Service σ) (List Entry)
  | .ok stored => pure stored
  | .error (.duplicateId id) => do
    Action.emit (.batchCollision (maxAttempts - n) id)
    addBatchFresh owner items n
  | .error cause => Action.fail (.storage cause)

theorem addBatchFresh_attempt {ids : List String} {r₀ : Except StoreError (List Entry)}
    {r : Except ServiceError (List Entry)}
    (hdrawn : (Identifier.generateDistinct items.length s.shortIdLength s.random).1 = .ok ids)
    (hbatch : (Store.createBatch (batchEntries owner items ids)).Ends s.pipeline.store r₀ store) :
    (addBatchFresh owner items (n + 1)).Ends s r s' ↔
      (afterBatch owner items n r₀).Ends
        ((s.withRandom (Identifier.generateDistinct items.length s.shortIdLength s.random).2).withStore store) r s' := by
  have hdraw : (draw (Identifier.generateDistinct items.length s.shortIdLength)).Ends s (.ok ids) _ :=
    draw_ok_iff.mpr ⟨hdrawn, rfl⟩
  refine Action.ends_state_bind.trans (hdraw.bind_iff.trans (ends_attempt_bind.trans ?_))
  constructor
  · rintro ⟨r₁, store₁, hends, hrest⟩
    obtain ⟨rfl, rfl⟩ := hbatch.unique hends
    exact hrest
  · intro hrest
    exact ⟨r₀, store, hbatch, hrest⟩

theorem addBatchFresh_undrawn {e : Identifier.DrawError} {r : Except ServiceError (List Entry)}
    (hdrawn : (Identifier.generateDistinct items.length s.shortIdLength s.random).1 = .error e) :
    (addBatchFresh owner items (n + 1)).Ends s r s' ↔ r = .error (.noIdentifier e.message) ∧
      s' = s.withRandom (Identifier.generateDistinct items.length s.shortIdLength s.random).2 :=
  Action.ends_state_bind.trans (draw_fails hdrawn).bind_error_iff

end Service
end ShortLinks
