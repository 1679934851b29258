import ShortLinks.Proofs.Store.SoftDeletion

/-!
# A batch and its items one by one

A batch looks at the ids of all its items first and then stores them; adding looks at the target of an item first and at its
id after that. Where all ids are new this makes no difference: a batch leaves what its items leave when they are added one
after the other, and it answers for each of them with the entry whose id adding it gives or refuses it for.
-/

set_option autoImplicit false

namespace ShortLinks

namespace Contents

variable {c c' : Contents} {batch replies : List Entry}

theorem Answers.stored (hb : Answers c batch replies c') :
    List.Forall₂ (fun item a => ∃ x, c' a.id = some x ∧ a = { x with correlation := item.correlation }) batch replies := by
  induction hb with
  | nil => exact .nil
  | known hx hrest ih => exact .cons ⟨_, (hrest.keeps (hx.1 ▸ Option.some_ne_none _)).trans hx.1, rfl⟩ ih
  | @fresh c c' item rest answers _ _ hrest ih => exact .cons ⟨item, hrest.keeps_stored, rfl⟩ ih

end Contents

section Singly

variable {σ : Type} [Store σ]

/-- Adding the items one after the other gives such answers: an item is refused for the entry that answers for it, or it is
added and answers for itself. -/
inductive Singly : σ → List Entry → List Entry → σ → Prop where
  | nil (s : σ) : Singly s [] [] s
  | known {s s' : σ} {item : Entry} {rest answers : List Entry} (x : Entry)
      (hadd : (Store.add item).Ends s (.error (.createConflict x.id)) s) (hrest : Singly s rest answers s') :
      Singly s (item :: rest) (x.answering item :: answers) s'
  | fresh {s s₁ s' : σ} {item : Entry} {rest answers : List Entry} (hadd : (Store.add item).Ends s (.ok item.id) s₁)
      (hrest : Singly s₁ rest answers s') : Singly s (item :: rest) (item :: answers) s'

theorem Singly.each {s s' : σ} {batch answers : List Entry} (h : Singly s batch answers s') :
    (Action.each Store.add batch s).2 = s' ∧
      List.Forall₂ (fun r a => r = .ok a.id ∨ r = .error (.createConflict a.id)) (Action.each Store.add batch s).1
        answers := by
  induction h with
  | nil => exact ⟨rfl, .nil⟩
  | known x hadd hrest ih =>
    obtain ⟨houtcome, hstate⟩ := hadd
    rw [Action.each, hstate]
    exact ⟨ih.1, .cons (.inr houtcome) ih.2⟩
  | fresh hadd hrest ih =>
    obtain ⟨houtcome, rfl⟩ := hadd
    exact ⟨ih.1, .cons (.inl houtcome) ih.2⟩

def Used (s : σ) (id : String) : Prop := ∃ e, Finds s id e

structure Batched (s : σ) (batch answers : List Entry) (after : σ) : Prop where
  alike : Alike after (Action.each Store.add batch s).2
  ids :
    List.Forall₂ (fun r a => r = .ok a.id ∨ r = .error (.createConflict a.id)) (Action.each Store.add batch s).1 answers
  entries :
    List.Forall₂ (fun item a => ∃ x, Finds after a.id x ∧ a = { x with correlation := item.correlation }) batch answers

/-- How a batch ends: it does what adding its items does, or it is refused for the first of its ids that is used or
repeated, and changes nothing. -/
structure Batches (s : σ) (batch : List Entry) : Prop where
  stored : (batch.map Entry.id).Nodup → (∀ item ∈ batch, ¬ Used s item.id) →
    ∃ answers after, (Store.createBatch batch).Ends s (.ok answers) after ∧ Batched s batch answers after
  refused : ¬ ((batch.map Entry.id).Nodup ∧ ∀ item ∈ batch, ¬ Used s item.id) →
    ∃ before e rest, batch = before ++ e :: rest ∧ (before.map Entry.id).Nodup ∧ (∀ item ∈ before, ¬ Used s item.id) ∧
      (Used s e.id ∨ e.id ∈ before.map Entry.id) ∧ (Store.createBatch batch).Ends s (.error (.duplicateId e.id)) s

variable [LawfulStore σ] {s : σ} {batch : List Entry}

open LawfulStore (Ready contents)

theorem used_iff (h : Ready s) (id : String) : Used s id ↔ (contents s id).isSome = true := by
  unfold Used
  simp only [LawfulStore.finds_iff h, Option.isSome_iff_exists]

theorem firstTaken?_eq_none_iff_used (h : Ready s) (batch : List Entry) :
    firstTaken? (fun id => (contents s id).isSome) batch = none ↔
      (batch.map Entry.id).Nodup ∧ ∀ item ∈ batch, ¬ Used s item.id := by
  rw [firstTaken?_eq_none_iff]
  simp only [used_iff h, Bool.not_eq_true]

variable [PreciseStore σ]

/-- A store whose batches do what adding one by one does to it. -/
theorem batches_of_singly (h : Ready s) (hsingly : ∀ answers after, (Store.createBatch batch).Ends s (.ok answers) after →
    firstTaken? (fun id => (contents s id).isSome) batch = none → ∃ s', Singly s batch answers s' ∧ Alike after s') :
    Batches s batch := by
  rcases PreciseStore.createBatch_cases h batch with ⟨htaken, id, hends⟩ | ⟨hfree, answers, after, hends, hready, hanswers⟩
  · refine ⟨fun hnodup hunused => ?_, fun _ => ?_⟩
    · exact absurd ((firstTaken?_eq_none_iff_used h batch).mpr ⟨hnodup, hunused⟩) htaken
    · obtain ⟨-, ⟨first, hfirst, heq, -⟩ | ⟨answers, heq, -⟩⟩ := LawfulStore.createBatch_ends h hends
      · cases heq
        obtain ⟨before, e, rest, hbatch, rfl, hbefore, hwhy⟩ := firstTaken?_eq_some hfirst
        obtain ⟨hnodup, hunused⟩ := (firstTaken?_eq_none_iff_used h before).mp hbefore
        exact ⟨before, e, rest, hbatch, hnodup, hunused, hwhy.imp_left (used_iff h e.id).mpr, hends⟩
      · cases heq
  · refine ⟨fun _ _ => ?_, fun htaken => absurd ((firstTaken?_eq_none_iff_used h batch).mp hfree) htaken⟩
    obtain ⟨s', hadds, halike⟩ := hsingly answers after hends hfree
    obtain ⟨rfl, hids⟩ := hadds.each
    refine ⟨answers, after, hends, halike, hids, ?_⟩
    simp only [LawfulStore.finds_iff hready]
    exact hanswers.stored

end Singly

namespace MemoryStore

variable {s after : MemoryStore} {batch answers : List Entry}

theorem add_conflict {item x : Entry} (h : s.Consistent) (hlive : s.liveFor? item.target = some x) :
    (Store.add item).Ends s (.error (.createConflict x.id)) s := by
  have htarget := h.liveTargets_eq_some.mpr ⟨x, h.liveFor?_eq_some.mp hlive, rfl⟩
  have hrefusal : s.refusal? item = some (.createConflict x.id) := by
    unfold refusal?
    rw [htarget]
  show (add item s).outcome = _ ∧ (add item s).state = s
  unfold add
  rw [hrefusal]
  exact ⟨rfl, rfl⟩

theorem add_new {item : Entry} (h : s.Consistent) (hfree : s.liveFor? item.target = none) (hid : s.contents item.id = none) :
    (Store.add item).Ends s (.ok item.id) (s.insert item) := by
  have htarget := h.liveTargets_eq_none.mpr (h.liveFor?_eq_none.mp hfree)
  have hknown : s.byId.contains item.id = false := by
    rw [contains_eq]
    exact congrArg Option.isSome hid
  have hrefusal : s.refusal? item = none := by
    unfold refusal?
    rw [htarget, hknown]
    rfl
  show (add item s).outcome = _ ∧ (add item s).state = _
  unfold add
  rw [hrefusal]
  exact ⟨rfl, rfl⟩

theorem storeItems_singly (h : s.Consistent) (hfree : firstTaken? (fun id => (s.contents id).isSome) batch = none) :
    Singly s batch (s.storeItems batch).1 (s.storeItems batch).2 := by
  induction batch generalizing s with
  | nil => exact .nil s
  | cons item rest ih =>
    obtain ⟨hid, hrest⟩ := firstTaken?_cons_eq_none hfree
    unfold storeItems storeItem
    cases hlive : s.liveFor? item.target with
    | some x => exact .known x (add_conflict h hlive) (ih h (firstTaken?_eq_none_of_le (fun id hid => by simp [hid]) hrest))
    | none =>
      have hnone : s.contents item.id = none := by simpa using hid
      refine .fresh (add_new h hlive hnone) (ih (h.insert (h.liveFor?_eq_none.mp hlive) hnone) ?_)
      rw [contents_insert]
      exact Contents.firstTaken?_store hrest

theorem createBatch_singly (h : s.Consistent) (hends : (Store.createBatch batch).Ends s (.ok answers) after)
    (hfree : firstTaken? (fun id => (s.contents id).isSome) batch = none) : Singly s batch answers after := by
  obtain ⟨houtcome, rfl⟩ := hends
  have hrun : (Store.createBatch batch).run s = ⟨.ok (s.storeItems batch).1, (s.storeItems batch).2, []⟩ := by
    show createBatch batch s = _
    unfold createBatch
    rw [contains_eq, hfree]
  rw [hrun] at houtcome ⊢
  cases houtcome
  exact storeItems_singly h hfree

end MemoryStore

namespace FileStore

variable {s after : FileStore} {batch answers : List Entry}

theorem add_conflict {item x : Entry} (h : s.Ready) (hlive : s.logOf.liveFor? item.target = some x) :
    (Store.add item).Ends s (.error (.createConflict x.id)) s := by
  refine (readAll_bind h).mpr ?_
  have hrefusal : s.logOf.refusal? item = some (.createConflict x.id) := by
    unfold Log.refusal?
    rw [hlive]
  rw [hrefusal]
  exact ⟨rfl, rfl⟩

theorem add_new {item : Entry} (h : s.Ready) (hd : s.disk.Steady) (hfree : s.logOf.liveFor? item.target = none)
    (hid : s.logOf.get? item.id = none) : ∃ s', (Store.add item).Ends s (.ok item.id) s' ∧ s.Extended [item] s' := by
  obtain ⟨s', happend⟩ := append_of_steady hd [item]
  refine ⟨s', (readAll_bind h).mpr ?_, append_ends h happend⟩
  have hknown : s.logOf.contains item.id = false := by
    rw [s.logOf_indexed.contains_eq]
    exact congrArg Option.isSome hid
  have hrefusal : s.logOf.refusal? item = none := by
    unfold Log.refusal?
    rw [hfree, hknown]
    rfl
  rw [hrefusal]
  exact happend.bind ⟨rfl, rfl⟩

theorem storeItems_singly (h : s.Ready) (hd : s.disk.Steady)
    (hfree : firstTaken? (fun id => (s.logOf.get? id).isSome) batch = none) :
    ∃ s', Singly s batch (s.logOf.storeItems batch).1 s' ∧ s'.Ready ∧
      s'.logOf = (s.logOf.storeItems batch).2.foldl Log.apply s.logOf := by
  induction batch generalizing s with
  | nil => exact ⟨s, .nil s, h, rfl⟩
  | cons item rest ih =>
    obtain ⟨hid, hrest⟩ := firstTaken?_cons_eq_none hfree
    unfold Log.storeItems
    cases hlive : s.logOf.liveFor? item.target with
    | some x =>
      obtain ⟨s', hadds, hready, hlog⟩ := ih h hd (firstTaken?_eq_none_of_le (fun id hid => by simp [hid]) hrest)
      exact ⟨s', .known x (add_conflict h hlive) hadds, hready, hlog⟩
    | none =>
      have hnone : s.logOf.get? item.id = none := by simpa using hid
      obtain ⟨s₁, hadd, hextended⟩ := add_new h hd hlive hnone
      have hlog₁ : s₁.logOf = s.logOf.apply item := hextended.logOf
      obtain ⟨s', hadds, hready, hlog⟩ := ih hextended.ready (hextended.later.steady hd)
        (hlog₁ ▸ s.logOf_indexed.firstTaken?_apply hnone hrest)
      rw [hlog₁] at hadds hlog
      exact ⟨s', .fresh hadd hadds, hready, hlog⟩

theorem createBatch_singly (h : s.Ready) (hd : s.disk.Steady)
    (hends : (Store.createBatch batch).Ends s (.ok answers) after)
    (hfree : firstTaken? (fun id => (s.logOf.get? id).isSome) batch = none) :
    ∃ s', Singly s batch answers s' ∧ Alike after s' := by
  obtain ⟨s', hadds, hready, hlog⟩ := storeItems_singly h hd hfree
  have hrest := (readAll_bind h).mp hends
  rw [← s.logOf_indexed.contains_eq] at hfree
  rw [hfree] at hrest
  obtain ⟨_, s₁, happend, hpure⟩ := Action.ends_bind_ok.mp hrest
  obtain ⟨heq, rfl⟩ := Action.ends_pure.mp hpure
  cases heq
  have hextended := append_ends h happend
  exact ⟨s', hadds, (hextended.ready.alike hready (congrArg Log.entries (hextended.logOf.trans hlog.symm))).1⟩

end FileStore

/-- A batch equals its items: neither a memory store after any calls nor a file store that was opened on any log, on a disk
that does not fail, tells a batch of new ids from adding its items one after the other. Any other batch is refused for
the first of its ids that is used or repeated. -/
theorem createBatch_as_adds :
    (∀ s : MemoryStore, s.Reached → ∀ batch : List Entry, Batches s batch) ∧
      ∀ s : FileStore, s.Reached → ∀ batch : List Entry, Batches s batch := by
  constructor
  · intro s hs batch
    refine batches_of_singly hs.ready fun answers after hends hfree => ⟨after, ?_, ?_⟩
    · exact MemoryStore.createBatch_singly hs.ready hends hfree
    · exact ⟨fun _ => rfl, fun _ => rfl, rfl, fun _ _ => Iff.rfl⟩
  · intro s hs batch
    exact batches_of_singly hs.ready fun answers after hends hfree =>
      FileStore.createBatch_singly hs.ready.1 hs.ready.2 hends hfree

theorem FileStore.notedDisk_unused {s : FileStore} (h : FileStore.Opens "log" FileStore.notedDisk s)
    (hready : LawfulStore.Ready s) (id : String) : ¬ Used s id := by
  have hcontent := Disk.content?_of_holds FileStore.notedDisk_holds
  have hnothing : s.logOf.get? id = none := by
    rw [h.rewritten.logOf_eq, hcontent, Option.getD_some, Log.get?_ofBytes_toBytes, Log.ofBytes_eq]
    exact Log.get?_empty id
  rw [used_iff hready, Bool.not_eq_true]
  exact congrArg Option.isSome hnothing

theorem notedDisk_createBatch_as_adds :
    let batch := [Entry.create "a" "t" none (some "1"), Entry.create "b" "u" (some "o") none,
      Entry.create "c" "t" (some "o") (some "2")]
    let again := [Entry.create "a" "t" none none, Entry.create "a" "u" none none]
    (∃ answers after, (Store.createBatch batch).Ends MemoryStore.empty (.ok answers) after ∧
      Batched MemoryStore.empty batch answers after) ∧
    ∃ s, FileStore.Opens "log" FileStore.notedDisk s ∧
      (∃ answers after, (Store.createBatch batch).Ends s (.ok answers) after ∧ Batched s batch answers after) ∧
      (Store.createBatch again).Ends s (.error (.duplicateId "a")) s := by
  intro batch again
  have hnodup : (batch.map Entry.id).Nodup := by decide
  have hempty : MemoryStore.empty.Reached := ⟨[], rfl⟩
  have hunused : ∀ id, ¬ Used MemoryStore.empty id := by
    intro id
    rw [used_iff hempty.ready, Bool.not_eq_true]
    exact congrArg Option.isSome (congrFun MemoryStore.contents_empty id)
  obtain ⟨s, hopens⟩ := FileStore.notedDisk_opens
  have hreached : s.Reached := ⟨"log", _, s, [], hopens, fun _ h => (by cases h), rfl⟩
  have hunusedFile := FileStore.notedDisk_unused hopens hreached.ready
  refine ⟨(createBatch_as_adds.1 _ hempty batch).stored hnodup fun item _ => hunused item.id, s, hopens,
    (createBatch_as_adds.2 s hreached batch).stored hnodup fun item _ => hunusedFile item.id, ?_⟩
  obtain ⟨before, e, rest, hagain, -, -, -, hends⟩ := (createBatch_as_adds.2 s hreached again).refused
    fun h => absurd h.1 (by decide)
  have hid : ∀ item ∈ again, item.id = "a" := by decide
  rw [hid e (hagain ▸ List.mem_append_right _ List.mem_cons_self)] at hends
  exact hends

end ShortLinks
