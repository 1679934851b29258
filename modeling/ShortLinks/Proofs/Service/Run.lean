import ShortLinks.Proofs.Deletion.Pipeline
import ShortLinks.Proofs.Service.Progress

/-!
# The service makes progress

How the actions of the service end on a store that is ready, each in terms of the contents before and after, and from
that what any request does: `perform_progress`.
-/

set_option autoImplicit false

namespace ShortLinks.Service

variable {σ ε α β : Type} {s s' : Service σ}

def withStore (s : Service σ) (store : σ) : Service σ := { s with pipeline := { s.pipeline with store } }

theorem store_ends {a : Action ε σ α} {r : Except ε α} : (onPipeline (Deletion.Pipeline.onStore a)).Ends s r s' ↔
    ∃ store, a.Ends s.pipeline.store r store ∧ s' = s.withStore store := by
  constructor
  · intro h
    obtain ⟨p, hp, rfl⟩ := Action.ends_onPart.mp h
    obtain ⟨store, hstore, rfl⟩ := Action.ends_onPart.mp hp
    exact ⟨store, hstore, rfl⟩
  · rintro ⟨store, hstore, rfl⟩
    exact Action.ends_onPart.mpr ⟨_, Action.ends_onPart.mpr ⟨store, hstore, rfl⟩, rfl⟩

theorem draw_ends {f : Random → Except Identifier.DrawError α × Random} {r : Except ServiceError α}
    (h : (draw f).Ends s r s') : s'.pipeline = s.pipeline := by
  obtain ⟨-, rfl⟩ := h
  rfl

theorem draw_ok_iff {f : Random → Except Identifier.DrawError α × Random} {x : α} :
    (draw f).Ends s (.ok x) s' ↔ (f s.random).1 = .ok x ∧ s' = { s with random := (f s.random).2 } := by
  change (f s.random).1.mapError _ = .ok x ∧ _ = s' ↔ _
  cases (f s.random).1 with
  | ok y =>
    show Except.ok y = .ok x ∧ _ = s' ↔ Except.ok y = .ok x ∧ s' = _
    rw [Except.ok.injEq, Except.ok.injEq]
    exact and_congr_right fun _ => eq_comm
  | error e => exact iff_of_false (fun h => nomatch h.1) (fun h => nomatch h.1)

theorem drawShortId_ends {r : Except ServiceError String} (h : drawShortId.Ends s r s') : s'.pipeline = s.pipeline := by
  have hdraw := Action.ends_state_bind.mp h
  exact draw_ends hdraw

theorem drawShortId_of_ok {id : String} (h : (Identifier.generate s.shortIdLength s.random).1 = .ok id) :
    ∃ s', drawShortId.Ends s (.ok id) s' :=
  ⟨_, Action.ends_state_bind.mpr (draw_ok_iff.mpr ⟨h, rfl⟩)⟩

theorem newOwnerId_ends {r : Except ServiceError String} (h : newOwnerId.Ends s r s') : s'.pipeline = s.pipeline := by
  have hdraw := Action.ends_state_bind.mp h
  exact draw_ends hdraw

theorem ends_attempt_bind {a : Action StoreError σ α} {f : Except StoreError α → Action ServiceError (Service σ) β}
    {r : Except ServiceError β} :
    (Action.attempt (onPipeline (Deletion.Pipeline.onStore a)) >>= f).Ends s r s' ↔
      ∃ r₀ store, a.Ends s.pipeline.store r₀ store ∧ (f r₀).Ends (s.withStore store) r s' := by
  rw [Action.ends_attempt_bind]
  constructor
  · rintro ⟨r₀, s₁, hstore, hrest⟩
    obtain ⟨store, hends, rfl⟩ := store_ends.mp hstore
    exact ⟨r₀, store, hends, hrest⟩
  · rintro ⟨r₀, store, hends, hrest⟩
    exact ⟨r₀, s.withStore store, store_ends.mpr ⟨store, hends, rfl⟩, hrest⟩

theorem onStore_ends {a : Action StoreError σ α} {r : Except ServiceError α} (h : (onStore a).Ends s r s') :
    ∃ r₀ store, a.Ends s.pipeline.store r₀ store ∧ r = r₀.mapError .storage ∧ s' = s.withStore store := by
  obtain ⟨store, hcall, rfl⟩ := store_ends.mp h
  obtain ⟨r₀, hends, rfl⟩ := Action.ends_mapError.mp hcall
  exact ⟨r₀, store, hends, rfl, rfl⟩

variable [Store σ] [LawfulStore σ] {owner target id : String} {items : List Submission}

def Ready (s : Service σ) : Prop := LawfulStore.Ready s.pipeline.store

def contents (s : Service σ) : Contents := LawfulStore.contents s.pipeline.store

theorem Ready.of_store_eq (h : s.Ready) (hsame : s'.pipeline.store = s.pipeline.store) :
    s'.Ready ∧ s'.contents = s.contents := by
  rw [Ready, contents, contents, hsame]
  exact ⟨h, rfl⟩

theorem Ready.of_pipeline_eq (h : s.Ready) (hsame : s'.pipeline = s.pipeline) :
    s'.Ready ∧ s'.contents = s.contents :=
  h.of_store_eq (congrArg Deletion.Pipeline.store hsame)

theorem getById_ends {r : Except ServiceError (Option Entry)} (h : s.Ready)
    (hends : (onStore (Store.getById id)).Ends s r s') :
    s'.Ready ∧ r = .ok (s.contents id) ∧ s'.contents = s.contents := by
  obtain ⟨r₀, store, hcall, rfl, rfl⟩ := onStore_ends hends
  obtain ⟨hready, rfl, hcontents⟩ := LawfulStore.getById_ends h hcall
  exact ⟨hready, rfl, hcontents⟩

theorem existing_ends {requested x : Entry} {r : Except ServiceError CreateOutcome} (h : s.Ready)
    (hx : s.contents x.id = some x) (hends : (existing requested x.id).Ends s r s') :
    s'.Ready ∧ r = .ok (.existing x) ∧ s'.contents = s.contents := by
  rcases Action.ends_bind.mp hends with ⟨found, s₁, hget, hrest⟩ | ⟨e, hget, -⟩
  · obtain ⟨hready, hfound, hcontents⟩ := getById_ends h hget
    rw [hx] at hfound
    cases hfound
    obtain ⟨rfl, rfl⟩ := Action.ends_pure.mp hrest
    exact ⟨hready, rfl, hcontents⟩
  · cases (getById_ends h hget).2.1

/-- What one attempt under a drawn id comes to: the target has an entry, the id is taken and the next attempt
follows, or the entry is stored. -/
theorem addFresh_ends {s₁ : Service σ} {n : Nat} {r : Except ServiceError CreateOutcome} (h : s.Ready)
    (hdraw : drawShortId.Ends s (.ok id) s₁) (hends : (addFresh owner target (n + 1)).Ends s r s') :
    (∃ x, s.contents.LiveFor target x ∧ s'.Ready ∧ r = .ok (.existing x) ∧ s'.contents = s.contents) ∨
    ((∀ x, ¬ s.contents.LiveFor target x) ∧ s.contents id ≠ none ∧
      ∃ s₂ : Service σ, s₂.Ready ∧ s₂.contents = s.contents ∧ (addFresh owner target n).Ends s₂ r s') ∨
    ((∀ x, ¬ s.contents.LiveFor target x) ∧ s.contents id = none ∧ s'.Ready ∧
      r = .ok (.created (Entry.create id target (some owner) none)) ∧
      s'.contents = s.contents.store (Entry.create id target (some owner) none)) := by
  have hdrawn := hdraw.bind_iff.mp hends
  obtain ⟨hready₁, hcontents₁⟩ := h.of_pipeline_eq (drawShortId_ends hdraw)
  rw [← hcontents₁]
  obtain ⟨r₀, store, hadd, hrest⟩ := ends_attempt_bind.mp hdrawn
  obtain ⟨hready₂, hcases⟩ := LawfulStore.add_ends hready₁ hadd
  change (s₁.withStore store).Ready at hready₂
  rcases hcases with ⟨x, hx, rfl, hcontents₂⟩ | ⟨hfree, hid, rfl, hcontents₂⟩ | ⟨hfree, hid, rfl, hcontents₂⟩
  · change (s₁.withStore store).contents = s₁.contents at hcontents₂
    have hfound : (s₁.withStore store).contents x.id = some x := by
      rw [hcontents₂]
      exact hx.1
    obtain ⟨hready, hr, hcontents⟩ := existing_ends hready₂ hfound hrest
    exact .inl ⟨x, hx, hready, hr, hcontents.trans hcontents₂⟩
  · have hagain := Action.ends_emit_bind.mp hrest
    exact .inr (.inl ⟨hfree, hid, s₁.withStore store, hready₂, hcontents₂, hagain⟩)
  · obtain ⟨hr, rfl⟩ := Action.ends_pure.mp hrest
    exact .inr (.inr ⟨hfree, hid, hready₂, hr, hcontents₂⟩)

theorem addFresh_progress {n : Nat} {r : Except ServiceError CreateOutcome} (h : s.Ready)
    (hends : (addFresh owner target n).Ends s r s') :
    s'.Ready ∧ Progress s.contents (.create owner target) (r.map .outcome) s'.contents := by
  induction n generalizing s with
  | zero =>
    obtain ⟨rfl, rfl⟩ := Action.ends_fail.mp hends
    exact ⟨h, .failed _⟩
  | succ n ih =>
    rcases Action.ends_bind.mp hends with ⟨id, s₁, hdraw, -⟩ | ⟨e, hdraw, rfl⟩
    · rcases addFresh_ends h hdraw hends with ⟨x, hx, hready, rfl, hcontents⟩ |
        ⟨-, -, s₂, hready₂, hcontents₂, hagain⟩ | ⟨hfree, hid, hready, rfl, hcontents⟩
      · rw [hcontents]
        exact ⟨hready, .existing hx⟩
      · rw [← hcontents₂]
        exact ih hready₂ hagain
      · rw [hcontents]
        exact ⟨hready, .created hfree hid⟩
    · obtain ⟨hready, hcontents⟩ := h.of_pipeline_eq (drawShortId_ends hdraw)
      rw [hcontents]
      exact ⟨hready, .failed e⟩

theorem create_progress {r : Except ServiceError CreateOutcome} (h : s.Ready)
    (hends : (create owner target).Ends s r s') :
    s'.Ready ∧ Progress s.contents (.create owner target) (r.map .outcome) s'.contents := by
  unfold create at hends
  cases hcheck : checkTarget target with
  | error cause =>
    rw [hcheck] at hends
    obtain ⟨rfl, rfl⟩ := Action.ends_fail.mp hends
    exact ⟨h, .failed _⟩
  | ok =>
    rw [hcheck] at hends
    exact addFresh_progress h hends

theorem create_of_drawn {r : Except ServiceError CreateOutcome} (h : s.Ready) (hok : checkTarget target = .ok ())
    (hdrawn : (Identifier.generate s.shortIdLength s.random).1 = .ok id)
    (hfree : s.contents id ≠ none → ∃ x, s.contents.LiveFor target x) (hends : (create owner target).Ends s r s') :
    ∃ o, r = .ok o := by
  unfold create at hends
  rw [hok] at hends
  obtain ⟨s₁, hdraw⟩ := drawShortId_of_ok hdrawn
  rcases addFresh_ends h hdraw hends with ⟨x, -, -, hr, -⟩ | ⟨hnone, hid, -⟩ | ⟨-, -, -, hr, -⟩
  · exact ⟨_, hr⟩
  · obtain ⟨x, hx⟩ := hfree hid
    exact absurd hx (hnone x)
  · exact ⟨_, hr⟩

theorem addBatchFresh_ends {s₁ : Service σ} {n : Nat} {ids : List String} {r : Except ServiceError (List Entry)}
    (h : s.Ready) (hdraw : (draw (Identifier.generateDistinct items.length s.shortIdLength)).Ends s (.ok ids) s₁)
    (hends : (addBatchFresh owner items (n + 1)).Ends s r s') :
    (∃ id, firstTaken? (fun id => (s.contents id).isSome) (batchEntries owner items ids) = some id ∧
      ∃ s₂ : Service σ, s₂.Ready ∧ s₂.contents = s.contents ∧ (addBatchFresh owner items n).Ends s₂ r s') ∨
    ∃ answers, s'.Ready ∧ r = .ok answers ∧
      s.contents.Answers (batchEntries owner items ids) answers s'.contents := by
  have hstate := Action.ends_state_bind.mp hends
  have hdrawn := hdraw.bind_iff.mp hstate
  obtain ⟨hready₁, hcontents₁⟩ := h.of_pipeline_eq (draw_ends hdraw)
  rw [← hcontents₁]
  obtain ⟨r₀, store, hbatch, hrest⟩ := ends_attempt_bind.mp hdrawn
  obtain ⟨hready₂, hcases⟩ := LawfulStore.createBatch_ends hready₁ hbatch
  rcases hcases with ⟨id, htaken, rfl, hcontents₂⟩ | ⟨answers, rfl, hanswers⟩
  · have hagain := Action.ends_emit_bind.mp hrest
    exact .inl ⟨id, htaken, s₁.withStore store, hready₂, hcontents₂, hagain⟩
  · obtain ⟨hr, rfl⟩ := Action.ends_pure.mp hrest
    exact .inr ⟨answers, hready₂, hr, hanswers⟩

theorem addBatchFresh_progress {n : Nat} {r : Except ServiceError (List Entry)} (h : s.Ready)
    (hends : (addBatchFresh owner items n).Ends s r s') :
    s'.Ready ∧ Progress s.contents (.createBatch owner items) (r.map .entries) s'.contents := by
  induction n generalizing s with
  | zero =>
    obtain ⟨rfl, rfl⟩ := Action.ends_fail.mp hends
    exact ⟨h, .failed _⟩
  | succ n ih =>
    have hstate := Action.ends_state_bind.mp hends
    rcases Action.ends_bind.mp hstate with ⟨ids, s₁, hdraw, -⟩ | ⟨e, hdraw, rfl⟩
    · have hlength := Identifier.length_generateDistinct (draw_ok_iff.mp hdraw).1
      rcases addBatchFresh_ends h hdraw hends with ⟨id, -, s₂, hready₂, hcontents₂, hagain⟩ |
        ⟨answers, hready, rfl, hanswers⟩
      · rw [← hcontents₂]
        exact ih hready₂ hagain
      · exact ⟨hready, .stored hlength hanswers⟩
    · obtain ⟨hready, hcontents⟩ := h.of_pipeline_eq (draw_ends hdraw)
      rw [hcontents]
      exact ⟨hready, .failed e⟩

theorem createBatch_progress {r : Except ServiceError (List Entry)} (h : s.Ready)
    (hends : (createBatch owner items).Ends s r s') :
    s'.Ready ∧ Progress s.contents (.createBatch owner items) (r.map .entries) s'.contents := by
  unfold createBatch at hends
  cases hbad : firstBadItem? 0 items with
  | some failure =>
    rw [hbad] at hends
    obtain ⟨rfl, rfl⟩ := Action.ends_fail.mp hends
    exact ⟨h, .failed _⟩
  | none =>
    rw [hbad] at hends
    by_cases hnil : items = []
    · subst hnil
      obtain ⟨rfl, rfl⟩ := Action.ends_pure.mp hends
      exact ⟨h, .stored (List.length_nil (α := String)) (.nil _)⟩
    · simp only [if_neg hnil] at hends
      exact addBatchFresh_progress h hends

theorem firstBadItem?_eq_none {index : Nat} (h : ∀ item ∈ items, checkTarget item.target = .ok ()) :
    firstBadItem? index items = none := by
  induction items generalizing index with
  | nil => rfl
  | cons item items ih =>
    rw [firstBadItem?, h item List.mem_cons_self]
    exact ih fun other hother => h other (List.mem_cons_of_mem item hother)

theorem createBatch_of_drawn {ids : List String} {r : Except ServiceError (List Entry)} (h : s.Ready)
    (hok : ∀ item ∈ items, checkTarget item.target = .ok ())
    (hdrawn : (Identifier.generateDistinct items.length s.shortIdLength s.random).1 = .ok ids)
    (hfree : ∀ id ∈ ids, s.contents id = none) (hends : (createBatch owner items).Ends s r s') :
    ∃ answers, r = .ok answers := by
  unfold createBatch at hends
  rw [firstBadItem?_eq_none hok] at hends
  by_cases hnil : items = []
  · simp only [if_pos hnil] at hends
    exact ⟨[], (Action.ends_pure.mp hends).1⟩
  · simp only [if_neg hnil] at hends
    have hids : (batchEntries owner items ids).map Entry.id = ids :=
      map_id_batchEntries (Identifier.length_generateDistinct hdrawn)
    have hnone : firstTaken? (fun id => (s.contents id).isSome) (batchEntries owner items ids) = none := by
      have hnodup : ((batchEntries owner items ids).map Entry.id).Nodup := by
        rw [hids]
        exact Identifier.nodup_generateDistinct hdrawn
      refine firstTaken?_eq_none hnodup fun e he => ?_
      have hmem : e.id ∈ (batchEntries owner items ids).map Entry.id := List.mem_map_of_mem he
      rw [hids] at hmem
      rw [hfree e.id hmem]
      rfl
    rcases addBatchFresh_ends h (draw_ok_iff.mpr ⟨hdrawn, rfl⟩) hends with ⟨id, htaken, -⟩ | ⟨answers, -, hr, -⟩
    · rw [hnone] at htaken
      cases htaken
    · exact ⟨answers, hr⟩

def Keeps (a : Action ε (Service σ) α) : Prop :=
  ∀ s r s', s.Ready → a.Ends s r s' → s'.Ready ∧ s'.contents = s.contents

theorem keeps_onStore {a : Action StoreError σ α}
    (ha : ∀ st r st', LawfulStore.Ready st → a.Ends st r st' →
      LawfulStore.Ready st' ∧ LawfulStore.contents st' = LawfulStore.contents st) : Keeps (onStore a) := by
  intro s r s' h hends
  obtain ⟨r₀, store, hcall, -, rfl⟩ := onStore_ends hends
  exact ha _ r₀ store h hcall

theorem keeps_resolve (id : String) : Keeps (resolve id : Action ServiceError (Service σ) (Option Entry)) :=
  keeps_onStore fun _ _ _ h hcall => ⟨(LawfulStore.getById_ends h hcall).1, (LawfulStore.getById_ends h hcall).2.2⟩

theorem keeps_redirectTarget (id : String) : Keeps (redirectTarget id : Action ServiceError (Service σ) String) := by
  intro s r s' h hends
  rcases Action.ends_bind.mp hends with ⟨found, s₁, hfound, hrest⟩ | ⟨e, hfound, -⟩
  · have hkept := keeps_resolve id s _ s₁ h hfound
    cases found with
    | none =>
      obtain ⟨-, rfl⟩ := Action.ends_fail.mp hrest
      exact hkept
    | some e =>
      by_cases hdel : e.deleted = true
      · simp only [hdel, if_true] at hrest
        obtain ⟨-, rfl⟩ := Action.ends_fail.mp hrest
        exact hkept
      · simp only [hdel] at hrest
        obtain ⟨-, rfl⟩ := Action.ends_pure.mp hrest
        exact hkept
  · exact keeps_resolve id s _ s' h hfound

theorem keeps_listByOwner (owner : String) :
    Keeps (listByOwner owner : Action ServiceError (Service σ) (List Entry)) := by
  intro s r s' h hends
  unfold listByOwner at hends
  by_cases hnobody : owner = ""
  · rw [if_pos hnobody] at hends
    obtain ⟨-, rfl⟩ := Action.ends_pure.mp hends
    exact ⟨h, rfl⟩
  · rw [if_neg hnobody] at hends
    exact keeps_onStore (fun _ _ _ => LawfulStore.allByOwner_ends) s r s' h hends

theorem keeps_stats : Keeps (stats : Action ServiceError (Service σ) Stats) :=
  keeps_onStore fun _ _ _ h hcall => ⟨(LawfulStore.stats_ends h hcall).1, (LawfulStore.stats_ends h hcall).2.1⟩

theorem keeps_ping : Keeps (ping : Action ServiceError (Service σ) Unit) :=
  keeps_onStore fun _ _ _ => LawfulStore.ping_ends

theorem keeps_onPipeline {a : Action ε (Deletion.Pipeline σ) α} (ha : ∀ p, (a.run p).state.store = p.store) :
    Keeps (onPipeline a) := by
  intro s r s' h hends
  obtain ⟨p, ⟨-, hp⟩, rfl⟩ := Action.ends_onPart.mp hends
  exact h.of_store_eq (hp ▸ ha s.pipeline)

theorem keeps_requestDelete (owner : String) (ids : List String) :
    Keeps (requestDelete owner ids : Action ServiceError (Service σ) Unit) :=
  keeps_onPipeline fun p => by
    rw [Action.run_mapError]
    exact Deletion.Pipeline.submit_store ⟨owner, ids⟩ p

theorem onPipeline_applies {a : Action ε (Deletion.Pipeline σ) α} {r : Except ε α}
    (ha : Deletion.Pipeline.Applies a) (h : s.Ready) (hends : (onPipeline a).Ends s r s') :
    s'.Ready ∧ s'.contents = s.contents.applyJobs ((onPipeline a).applied s) := by
  obtain ⟨p, hp, rfl⟩ := Action.ends_onPart.mp hends
  exact ha s.pipeline r p h hp

theorem applied_shutdown (s : Service σ) : (shutdown : Action ε (Service σ) Unit).applied s =
    (Deletion.Pipeline.shutdown : Action ε (Deletion.Pipeline σ) Unit).applied s.pipeline := by
  have hclosing : (onPipeline (Deletion.Pipeline.onStore (Action.attempt Store.close)) :
      Action ε (Service σ) (Except StoreError Unit)).Quiet :=
    ((LawfulStore.quiet .close (f := fun _ => .done) rfl).attempt.onPart _ _).onPart _ _
  exact Action.Quiet.applied_bind (fun _ => hclosing.bind fun _ => Action.quiet_pure ()) s

theorem shutdown_applies {r : Except ε Unit} (h : s.Ready) (hends : (shutdown : Action ε (Service σ) Unit).Ends s r s') :
    s'.Ready ∧ s'.contents = s.contents.applyJobs ((shutdown : Action ε (Service σ) Unit).applied s) := by
  rw [applied_shutdown]
  rcases Action.ends_bind.mp hends with ⟨_, s₁, hdrained, hrest⟩ | ⟨e, hdrained, -⟩
  · obtain ⟨hready₁, hjobs⟩ := onPipeline_applies Deletion.Pipeline.applies_composes.shutdown h hdrained
    change _ = s.contents.applyJobs (Deletion.Pipeline.shutdown.applied s.pipeline) at hjobs
    rw [← hjobs]
    rcases Action.ends_bind.mp hrest with ⟨_, s₂, hclose, hdone⟩ | ⟨e, hclose, -⟩
    · obtain ⟨-, rfl⟩ := Action.ends_pure.mp hdone
      obtain ⟨store, hattempt, rfl⟩ := store_ends.mp hclose
      obtain ⟨r₀, hcall, -⟩ := Action.ends_attempt.mp hattempt
      exact LawfulStore.close_ends hready₁ hcall
    · obtain ⟨store, hattempt, rfl⟩ := store_ends.mp hclose
      obtain ⟨r₀, -, heq⟩ := Action.ends_attempt.mp hattempt
      cases heq
  · exact onPipeline_applies Deletion.Pipeline.applies_composes.shutdown h hdrained

theorem perform_progress {request : Request} {r : Except ServiceError Response} (h : s.Ready)
    (hends : request.perform.Ends s r s') : s'.Ready ∧ Progress s.contents request r s'.contents := by
  have hkept : ∀ {β : Type} {a : Action ServiceError (Service σ) β} {r₀ : Except ServiceError β}, request.creates = false →
      Keeps a → a.Ends s r₀ s' → s'.Ready ∧ Progress s.contents request r s'.contents := by
    intro β a r₀ hreads ha hcall
    obtain ⟨hready, hcontents⟩ := ha s r₀ s' h hcall
    rw [hcontents]
    exact ⟨hready, .kept hreads⟩
  have hdeleted : ∀ {jobs : List Deletion.Job}, request.deletes = true → s'.Ready ∧ s'.contents = s.contents.applyJobs jobs →
      s'.Ready ∧ Progress s.contents request r s'.contents := by
    rintro jobs hdel ⟨hready, hjobs⟩
    rw [hjobs]
    exact ⟨hready, .deleted hdel jobs⟩
  cases request <;> obtain ⟨r₀, hcall, heq⟩ := Action.ends_map.mp hends
  case create owner target => exact heq ▸ create_progress h hcall
  case createBatch owner items => exact heq ▸ createBatch_progress h hcall
  case requestDelete owner ids => exact hkept rfl (keeps_requestDelete owner ids) hcall
  case resolve id => exact hkept rfl (keeps_resolve id) hcall
  case redirectTarget id => exact hkept rfl (keeps_redirectTarget id) hcall
  case listByOwner owner => exact hkept rfl (keeps_listByOwner owner) hcall
  case stats => exact hkept rfl keeps_stats hcall
  case ping => exact hkept rfl keeps_ping hcall
  case newOwnerId => exact hkept rfl (fun _ _ _ h hcall => h.of_pipeline_eq (newOwnerId_ends hcall)) hcall
  case take worker => exact hkept rfl (keeps_onPipeline (Deletion.Pipeline.take_store worker)) hcall
  case finish worker => exact hdeleted rfl (onPipeline_applies (Deletion.Pipeline.applies_finish worker) h hcall)
  case drain => exact hdeleted rfl (onPipeline_applies Deletion.Pipeline.applies_composes.drain h hcall)
  case shutdown => exact hdeleted rfl (shutdown_applies h hcall)

end ShortLinks.Service
