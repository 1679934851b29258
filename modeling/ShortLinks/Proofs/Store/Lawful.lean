import ShortLinks.Proofs.Action
import ShortLinks.Proofs.Outcome
import ShortLinks.Proofs.Store.Contents

/-!
# What lawful stores answer

The laws of a store, call by call: how a call on a ready store ends, in terms of the contents before and after.
-/

set_option autoImplicit false

namespace ShortLinks.LawfulStore

variable {σ α : Type} [Store σ] [LawfulStore σ] {s s' : σ} {e : Entry} {id owner requester : String}

theorem call_ends (call : Call) {f : α → Reply} {a : Action StoreError σ α} (hcall : call.perform = f <$> a)
    {r : Except StoreError α} (h : Ready s) (hends : a.Ends s r s') :
    Ready s' ∧ (contents s).Step call (r.map f) (contents s') := by
  have hmap : call.perform.Ends s (r.map f) s' := by
    rw [hcall]
    exact Action.ends_map.mpr ⟨r, hends, rfl⟩
  obtain ⟨houtcome, hstate⟩ := hmap
  rw [← houtcome, ← hstate]
  exact ⟨ready_perform call s h, step_perform call s h⟩

theorem quiet (call : Call) {f : α → Reply} {a : Action StoreError σ α} (hcall : call.perform = f <$> a) : a.Quiet := by
  intro s
  rw [← Action.applied_map f, ← hcall]
  exact quiet_perform call s

theorem add_ends {r : Except StoreError String} (h : Ready s) (hends : (Store.add e).Ends s r s') : Ready s' ∧
    ((∃ x, (contents s).LiveFor e.target x ∧ r = .error (.createConflict x.id) ∧ contents s' = contents s) ∨
      ((∀ x, ¬ (contents s).LiveFor e.target x) ∧ contents s e.id ≠ none ∧ r = .error (.duplicateId e.id) ∧
        contents s' = contents s) ∨
      ((∀ x, ¬ (contents s).LiveFor e.target x) ∧ contents s e.id = none ∧ r = .ok e.id ∧
        contents s' = (contents s).store e)) := by
  obtain ⟨hready, hstep⟩ := call_ends (.add e) rfl h hends
  refine ⟨hready, ?_⟩
  generalize contents s' = c' at hstep ⊢
  generalize hr : r.map Reply.id = reply at hstep
  cases hstep with
  | conflict hx => exact .inl ⟨_, hx, map_eq_error.mp hr, rfl⟩
  | taken hfree hid => exact .inr (.inl ⟨hfree, hid, map_eq_error.mp hr, rfl⟩)
  | added hfree hid =>
    obtain ⟨x, hx, heq⟩ := map_eq_ok.mp hr
    cases heq
    exact .inr (.inr ⟨hfree, hid, hx, rfl⟩)

theorem getById_ends {r : Except StoreError (Option Entry)} (h : Ready s) (hends : (Store.getById id).Ends s r s') :
    Ready s' ∧ r = .ok (contents s id) ∧ contents s' = contents s := by
  obtain ⟨hready, hstep⟩ := call_ends (.getById id) rfl h hends
  refine ⟨hready, ?_⟩
  generalize contents s' = c' at hstep ⊢
  generalize hr : r.map Reply.entry = reply at hstep
  cases hstep with
  | found =>
    obtain ⟨x, hx, heq⟩ := map_eq_ok.mp hr
    cases heq
    exact ⟨hx, rfl⟩

theorem createBatch_ends {batch : List Entry} {r : Except StoreError (List Entry)} (h : Ready s)
    (hends : (Store.createBatch batch).Ends s r s') : Ready s' ∧
    ((∃ id, firstTaken? (fun id => (contents s id).isSome) batch = some id ∧ r = .error (.duplicateId id) ∧
        contents s' = contents s) ∨
      ∃ answers, r = .ok answers ∧ (contents s).Answers batch answers (contents s')) := by
  obtain ⟨hready, hstep⟩ := call_ends (.createBatch batch) rfl h hends
  refine ⟨hready, ?_⟩
  generalize contents s' = c' at hstep ⊢
  generalize hr : r.map Reply.stored = reply at hstep
  cases hstep with
  | refused htaken => exact .inl ⟨_, htaken, map_eq_error.mp hr, rfl⟩
  | stored _ hb =>
    obtain ⟨x, hx, heq⟩ := map_eq_ok.mp hr
    cases heq
    exact .inr ⟨_, hx, hb⟩

theorem softDelete_ends {ids : List String} {r : Except StoreError Unit} (h : Ready s)
    (hends : (Store.softDelete requester ids).Ends s r s') : Ready s' ∧ r = .ok () ∧
    contents s' = ids.foldl (fun c id => c.delete requester id) (contents s) := by
  obtain ⟨hready, hstep⟩ := call_ends (.softDelete requester ids) (f := fun _ => .done) rfl h hends
  refine ⟨hready, ?_⟩
  generalize contents s' = c' at hstep ⊢
  generalize hr : r.map (fun _ => Reply.done) = reply at hstep
  cases hstep with
  | deleted =>
    obtain ⟨x, hx, -⟩ := map_eq_ok.mp hr
    exact ⟨hx, rfl⟩

theorem allByOwner_ends {r : Except StoreError (List Entry)} (h : Ready s)
    (hends : (Store.allByOwner owner).Ends s r s') : Ready s' ∧ contents s' = contents s := by
  obtain ⟨hready, hstep⟩ := call_ends (.allByOwner owner) rfl h hends
  refine ⟨hready, ?_⟩
  generalize contents s' = c' at hstep ⊢
  generalize r.map _ = reply at hstep
  cases hstep with
  | listed => rfl

theorem allByOwner_answers {r : Except StoreError (List Entry)} (h : Ready s)
    (hends : (Store.allByOwner owner).Ends s r s') : ∃ entries answers, (contents s).Lists entries ∧ r = .ok answers ∧
      answers.Perm (entries.filter (·.isOwnedBy owner)) := by
  obtain ⟨-, hstep⟩ := call_ends (.allByOwner owner) rfl h hends
  generalize contents s' = c' at hstep
  generalize hr : r.map _ = reply at hstep
  cases hstep with
  | listed _ hlist =>
    obtain ⟨answers, hanswers, heq⟩ := map_eq_ok.mp hr
    exact ⟨_, answers, hlist, hanswers, Multiset.coe_eq_coe.mp (Reply.owned.inj heq)⟩

theorem stats_ends {r : Except StoreError Stats} (h : Ready s) (hends : Store.stats.Ends s r s') : Ready s' ∧
    contents s' = contents s ∧ ∃ entries, (contents s).Lists entries ∧ r = .ok (Stats.ofEntries entries) := by
  obtain ⟨hready, hstep⟩ := call_ends .stats rfl h hends
  refine ⟨hready, ?_⟩
  generalize contents s' = c' at hstep ⊢
  generalize hr : r.map Reply.stats = reply at hstep
  cases hstep with
  | counted hlist =>
    obtain ⟨x, hx, heq⟩ := map_eq_ok.mp hr
    cases heq
    exact ⟨rfl, _, hlist, hx⟩

theorem ping_ends {r : Except StoreError Unit} (h : Ready s) (hends : Store.ping.Ends s r s') :
    Ready s' ∧ contents s' = contents s := by
  obtain ⟨hready, hstep⟩ := call_ends .ping (f := fun _ => .done) rfl h hends
  refine ⟨hready, ?_⟩
  generalize contents s' = c' at hstep ⊢
  generalize r.map _ = reply at hstep
  cases hstep with
  | pinged => rfl

theorem close_ends {r : Except StoreError Unit} (h : Ready s) (hends : Store.close.Ends s r s') :
    Ready s' ∧ contents s' = contents s := by
  obtain ⟨hready, hstep⟩ := call_ends .close (f := fun _ => .done) rfl h hends
  refine ⟨hready, ?_⟩
  generalize contents s' = c' at hstep ⊢
  generalize r.map _ = reply at hstep
  cases hstep with
  | closed => rfl

end ShortLinks.LawfulStore
