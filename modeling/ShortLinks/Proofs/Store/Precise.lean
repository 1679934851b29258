import ShortLinks.Proofs.Store.Lawful
import ShortLinks.Proofs.Store.Simulation
import ShortLinks.Proofs.Store.Tearing

/-!
# Stores that refuse without a trace

A lawful store says what its contents are after a call. A precise store says more: a call that is refused, or that only
looks something up, leaves the store itself as it was, and whatever there is for a target, a batch answers all its items
for that target with the same id. Both stores are precise, a file store on whatever log it was opened.
-/

set_option autoImplicit false

namespace ShortLinks

class PreciseStore (σ : Type) [Store σ] [LawfulStore σ] : Prop where
  getById_state (s s' : σ) (id : String) (r : Except StoreError (Option Entry)) : LawfulStore.Ready s →
    (Store.getById id).Ends s r s' → s' = s
  add_refused (s s' : σ) (e : Entry) (cause : StoreError) : LawfulStore.Ready s →
    (Store.add e).Ends s (.error cause) s' → s' = s
  createBatch_refused (s s' : σ) (batch : List Entry) (cause : StoreError) : LawfulStore.Ready s →
    (Store.createBatch batch).Ends s (.error cause) s' → s' = s
  createBatch_agrees (s s' : σ) (batch answers : List Entry) : LawfulStore.Ready s → (∀ item ∈ batch, item.deleted = false) →
    (Store.createBatch batch).Ends s (.ok answers) s' → ∀ a ∈ answers, ∀ b ∈ answers, a.target = b.target → a.id = b.id

namespace PreciseStore

variable {σ : Type} [Store σ] [LawfulStore σ] [PreciseStore σ] {s : σ}

open LawfulStore (Ready contents)

theorem add_cases (h : Ready s) (e : Entry) :
    (∃ x, (contents s).LiveFor e.target x ∧ (Store.add e).Ends s (.error (.createConflict x.id)) s) ∨
    ((∀ x, ¬ (contents s).LiveFor e.target x) ∧ contents s e.id ≠ none ∧
      (Store.add e).Ends s (.error (.duplicateId e.id)) s) ∨
    ((∀ x, ¬ (contents s).LiveFor e.target x) ∧ contents s e.id = none ∧ ∃ s', (Store.add e).Ends s (.ok e.id) s' ∧
      Ready s' ∧ contents s' = (contents s).store e) := by
  have hends := Action.ends_run (Store.add e) s
  generalize (Action.run _ s).outcome = r, (Action.run _ s).state = s' at hends
  obtain ⟨hready, hcases⟩ := LawfulStore.add_ends h hends
  rcases hcases with ⟨x, hx, rfl, -⟩ | ⟨hfree, hid, rfl, -⟩ | ⟨hfree, hid, rfl, hcontents⟩
  · obtain rfl := add_refused s s' e _ h hends
    exact .inl ⟨x, hx, hends⟩
  · obtain rfl := add_refused s s' e _ h hends
    exact .inr (.inl ⟨hfree, hid, hends⟩)
  · exact .inr (.inr ⟨hfree, hid, s', hends, hready, hcontents⟩)

theorem createBatch_cases (h : Ready s) (batch : List Entry) :
    (firstTaken? (fun id => (contents s id).isSome) batch ≠ none ∧
      ∃ id, (Store.createBatch batch).Ends s (.error (.duplicateId id)) s) ∨
    (firstTaken? (fun id => (contents s id).isSome) batch = none ∧
      ∃ answers s', (Store.createBatch batch).Ends s (.ok answers) s' ∧ Ready s' ∧
        (contents s).Answers batch answers (contents s')) := by
  have hends := Action.ends_run (Store.createBatch batch) s
  generalize (Action.run _ s).outcome = r, (Action.run _ s).state = s' at hends
  obtain ⟨hready, hstep⟩ := LawfulStore.call_ends (.createBatch batch) rfl h hends
  generalize hc : contents s' = c' at hstep
  generalize hr : r.map Reply.stored = reply at hstep
  cases hstep with
  | refused htaken =>
    obtain rfl := map_eq_error.mp hr
    obtain rfl := createBatch_refused s s' batch _ h hends
    exact .inl ⟨by rw [htaken]; exact Option.some_ne_none _, _, hends⟩
  | stored hfree hanswers =>
    obtain ⟨answers, rfl, heq⟩ := map_eq_ok.mp hr
    cases heq
    exact .inr ⟨hfree, _, s', hends, hready, hc ▸ hanswers⟩

end PreciseStore

namespace Contents

variable {c c' : Contents} {batch replies : List Entry}

theorem Answers.answered (hb : Answers c batch replies c') (hlive : ∀ item ∈ batch, item.deleted = false) :
    ∀ a ∈ replies, ∃ x, c'.LiveFor a.target x ∧ a.id = x.id ∧ a.owner = x.owner ∧
      ((∃ y, c.LiveFor a.target y) → c.LiveFor a.target x) := by
  induction hb with
  | nil => exact nofun
  | @known c c' item x rest answers hx hrest ih =>
    intro a ha
    rcases List.mem_cons.mp ha with rfl | ha
    · have hself : c.LiveFor x.target x := hx.target_eq.symm ▸ hx
      exact ⟨x, hself.answers hrest, rfl, rfl, fun _ => hself⟩
    · exact ih (fun other hother => hlive other (List.mem_cons_of_mem item hother)) a ha
  | @fresh c c' item rest answers hfree hid hrest ih =>
    have hitem : item.deleted = false := hlive item List.mem_cons_self
    intro a ha
    rcases List.mem_cons.mp ha with rfl | ha
    · have hnew : (c.store a).LiveFor a.target a := ⟨store_self c a, isLiveFor_iff.mpr ⟨hitem, rfl⟩⟩
      exact ⟨a, hnew.answers hrest, rfl, rfl, fun ⟨y, hy⟩ => absurd hy (hfree y)⟩
    · obtain ⟨x, hx, haid, howner, hold⟩ := ih (fun other hother => hlive other (List.mem_cons_of_mem item hother)) a ha
      refine ⟨x, hx, haid, howner, fun ⟨y, hy⟩ => ?_⟩
      rcases (hold ⟨y, hy.store hid⟩).of_store with hx' | rfl
      · exact hx'
      · -- the item itself is no answer for a target that had a live entry
        exact absurd hy ((hx.target_eq ▸ hfree) y)

theorem Answers.agrees (hb : Answers c batch replies c') (hc : c'.OneLive) (hlive : ∀ item ∈ batch, item.deleted = false) :
    ∀ a ∈ replies, ∀ b ∈ replies, a.target = b.target → a.id = b.id := by
  intro a ha b hb' htarget
  obtain ⟨x, hx, haid, -⟩ := hb.answered hlive a ha
  obtain ⟨y, hy, hbid, -⟩ := hb.answered hlive b hb'
  rw [haid, hbid, hc _ x y hx (htarget ▸ hy)]

end Contents

namespace MemoryStore

def Reached (s : MemoryStore) : Prop := ∃ calls : List Call, (Action.each Call.perform calls empty).2 = s

variable {s s' : MemoryStore} {cause : StoreError}

theorem Reached.ready (h : s.Reached) : LawfulStore.Ready s := by
  obtain ⟨calls, rfl⟩ := h
  exact each_consistent calls

theorem add_refused {e : Entry} (hends : (Store.add e).Ends s (.error cause) s') : s' = s := by
  obtain ⟨houtcome, rfl⟩ := hends
  change (add e s).outcome = _ at houtcome
  change (add e s).state = s
  unfold add at houtcome ⊢
  cases hrefusal : s.refusal? e with
  | some refusal => rfl
  | none =>
    rw [hrefusal] at houtcome
    cases houtcome

theorem createBatch_refused {batch : List Entry} (hends : (Store.createBatch batch).Ends s (.error cause) s') : s' = s := by
  obtain ⟨houtcome, rfl⟩ := hends
  change (createBatch batch s).outcome = _ at houtcome
  change (createBatch batch s).state = s
  unfold createBatch at houtcome ⊢
  cases htaken : firstTaken? s.byId.contains batch with
  | some id => rfl
  | none =>
    rw [htaken] at houtcome
    cases houtcome

theorem createBatch_agrees {batch answers : List Entry} (h : s.Consistent) (hlive : ∀ item ∈ batch, item.deleted = false)
    (hends : (Store.createBatch batch).Ends s (.ok answers) s') :
    ∀ a ∈ answers, ∀ b ∈ answers, a.target = b.target → a.id = b.id := by
  obtain ⟨hready, ⟨id, -, heq, -⟩ | ⟨answers', heq, hanswers⟩⟩ := LawfulStore.createBatch_ends h hends
  · cases heq
  · cases heq
    exact hanswers.agrees (Consistent.oneLive hready) hlive

instance : PreciseStore MemoryStore where
  getById_state _ _ _ _ _ hends := hends.2.symm
  add_refused _ _ _ _ _ := add_refused
  createBatch_refused _ _ _ _ _ := createBatch_refused
  createBatch_agrees _ _ _ _ := createBatch_agrees

end MemoryStore

namespace Log

variable {log : Log} {r x : Entry} {target : String} {batch : List Entry}

theorem Indexed.liveFor?_apply (h : log.Indexed) (hid : log.get? r.id = none) :
    (log.apply r).liveFor? target = (log.liveFor? target).or (if r.isLiveFor target then some r else none) := by
  unfold liveFor?
  rw [apply_fresh (h.get?_eq_none.mp hid), Array.find?_push]

theorem Indexed.storeItems_liveFor? (h : log.Indexed) (hfree : firstTaken? (fun id => (log.get? id).isSome) batch = none)
    (hlive : ∀ item ∈ batch, item.deleted = false) :
    let after := (log.storeItems batch).2.foldl Log.apply log
    (∀ target x, log.liveFor? target = some x → after.liveFor? target = some x) ∧
      ∀ a ∈ (log.storeItems batch).1, ∃ x, after.liveFor? a.target = some x ∧ a.id = x.id := by
  -- the first half carries an answer that is given early over the items that are stored later
  induction batch generalizing log with
  | nil => exact ⟨fun _ _ hx => hx, nofun⟩
  | cons item rest ih =>
    obtain ⟨hid, hrest⟩ := firstTaken?_cons_eq_none hfree
    have hrestLive : ∀ other ∈ rest, other.deleted = false := fun other hother => hlive other (List.mem_cons_of_mem item hother)
    unfold storeItems
    cases hfound : log.liveFor? item.target with
    | some x =>
      obtain ⟨hkept, hanswers⟩ := ih h (firstTaken?_eq_none_of_le (fun id hid => by simp [hid]) hrest) hrestLive
      refine ⟨hkept, fun a ha => ?_⟩
      rcases List.mem_cons.mp ha with rfl | ha
      · refine ⟨x, hkept _ x ?_, rfl⟩
        rw [← hfound]
        exact congrArg log.liveFor? (h.liveFor?_eq_some hfound).target_eq
      · exact hanswers a ha
    | none =>
      have hnone : log.get? item.id = none := by simpa using hid
      obtain ⟨hkept, hanswers⟩ := ih (h.apply item) (h.firstTaken?_apply hnone hrest) hrestLive
      have hitem : item.isLiveFor item.target = true :=
        Contents.isLiveFor_iff.mpr ⟨hlive item List.mem_cons_self, rfl⟩
      refine ⟨fun target x hx => hkept target x ?_, fun a ha => ?_⟩
      · rw [h.liveFor?_apply hnone, hx, Option.some_or]
      · rcases List.mem_cons.mp ha with rfl | ha
        · refine ⟨a, hkept _ a ?_, rfl⟩
          rw [h.liveFor?_apply hnone, hfound, if_pos hitem, Option.none_or]
        · exact hanswers a ha

end Log

namespace FileStore

/-- A store that calls and rewritings of its log have led to since it was opened, on a disk that does not fail. -/
def Reached (s : FileStore) : Prop := ∃ (path : String) (d : Disk) (opened : FileStore) (moves : List Move),
  Opens path d opened ∧ d.Steady ∧ (Action.each Move.onFile moves opened).2 = s

variable {s s' : FileStore} {cause : StoreError}

theorem Reached.ready (h : s.Reached) : LawfulStore.Ready s := by
  obtain ⟨path, d, opened, moves, hopens, hsteady, rfl⟩ := h
  refine Action.each_invariant (P := LawfulStore.Ready) (fun move s hs => ?_) moves
    ⟨hopens.rewritten.ready, hopens.rewritten.later.steady hsteady⟩
  exact (hs.1.move_of_steady hs.2 move).2

theorem getById_state {id : String} {r : Except StoreError (Option Entry)} (h : s.Ready)
    (hends : (Store.getById id).Ends s r s') : s' = s := by
  have hpure := (readAll_bind h).mp hends
  exact (Action.ends_pure.mp hpure).2

theorem append_pure_ne_error {α : Type} {records : List Entry} {x : α} (hd : s.disk.Steady) :
    ¬ (do append records; pure x : Action StoreError FileStore α).Ends s (.error cause) s' := by
  intro hends
  obtain ⟨s₁, hok⟩ := append_of_steady hd records
  have hpure := hok.bind_iff.mp hends
  cases (Action.ends_pure.mp hpure).1

theorem add_refused {e : Entry} (h : s.Ready) (hd : s.disk.Steady) (hends : (Store.add e).Ends s (.error cause) s') :
    s' = s := by
  have hrest := (readAll_bind h).mp hends
  cases hrefusal : s.logOf.refusal? e with
  | some refusal =>
    rw [hrefusal] at hrest
    exact (Action.ends_fail.mp hrest).2
  | none =>
    rw [hrefusal] at hrest
    exact absurd hrest (append_pure_ne_error hd)

theorem createBatch_refused {batch : List Entry} (h : s.Ready) (hd : s.disk.Steady)
    (hends : (Store.createBatch batch).Ends s (.error cause) s') : s' = s := by
  have hrest := (readAll_bind h).mp hends
  cases htaken : firstTaken? s.logOf.contains batch with
  | some id =>
    rw [htaken] at hrest
    exact (Action.ends_fail.mp hrest).2
  | none =>
    rw [htaken] at hrest
    exact absurd hrest (append_pure_ne_error hd)

theorem createBatch_agrees {batch answers : List Entry} (h : s.Ready) (hlive : ∀ item ∈ batch, item.deleted = false)
    (hends : (Store.createBatch batch).Ends s (.ok answers) s') :
    ∀ a ∈ answers, ∀ b ∈ answers, a.target = b.target → a.id = b.id := by
  have hrest := (readAll_bind h).mp hends
  cases htaken : firstTaken? s.logOf.contains batch with
  | some id =>
    rw [htaken] at hrest
    cases (Action.ends_fail.mp hrest).1
  | none =>
    rw [htaken] at hrest
    obtain ⟨_, s₁, -, hpure⟩ := Action.ends_bind_ok.mp hrest
    cases (Action.ends_pure.mp hpure).1
    rw [s.logOf_indexed.contains_eq] at htaken
    obtain ⟨-, hanswers⟩ := s.logOf_indexed.storeItems_liveFor? htaken hlive
    intro a ha b hb htarget
    obtain ⟨x, hx, haid⟩ := hanswers a ha
    obtain ⟨y, hy, hbid⟩ := hanswers b hb
    rw [htarget, hy] at hx
    cases hx
    rw [haid, hbid]

instance : PreciseStore FileStore where
  getById_state _ _ _ _ h := getById_state h.1
  add_refused _ _ _ _ h := add_refused h.1 h.2
  createBatch_refused _ _ _ _ h := createBatch_refused h.1 h.2
  createBatch_agrees _ _ _ _ h := createBatch_agrees h.1

end FileStore

end ShortLinks
