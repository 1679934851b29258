import ShortLinks.Proofs.Service.Attempts
import ShortLinks.Proofs.Service.Isolation
import ShortLinks.Proofs.Store.Precise

/-!
# How a batch ends

One request to shorten a list of targets. Each item is answered in its place, equal targets are answered by one entry,
and what is new is one entry for each target that had none, as its first item asks for it. A request that fails
leaves the store as it was.
-/

set_option autoImplicit false

namespace ShortLinks

namespace Contents

variable {c c' : Contents} {batch replies : List Entry}

theorem Answers.targets_eq (hb : Answers c batch replies c') : replies.map Entry.target = batch.map Entry.target := by
  induction hb with
  | nil => rfl
  | known hx _ ih => exact congrArg₂ List.cons hx.target_eq ih
  | fresh _ _ _ ih => exact congrArg (List.cons _) ih

theorem Answers.correlations_eq (hb : Answers c batch replies c') :
    replies.map Entry.correlation = batch.map Entry.correlation := by
  induction hb with
  | nil => rfl
  | known _ _ ih => exact congrArg (List.cons _) ih
  | fresh _ _ _ ih => exact congrArg (List.cons _) ih

theorem new_iff_of_store {e x : Entry} {id : String} (hid : c e.id = none) (hself : c' e.id = some e) :
    c' id = some x ∧ c id = none ↔ (x = e ∧ e.id = id) ∨ (c' id = some x ∧ c.store e id = none) := by
  by_cases heq : id = e.id
  · subst heq
    rw [hself, store_self]
    simp [hid, eq_comm]
  · rw [store_other heq]
    simp [Ne.symm heq]

/-- The new entries are the first items for the targets that had no live entry. -/
theorem Answers.new_iff (hb : Answers c batch replies c') (hlive : ∀ item ∈ batch, item.deleted = false) (id : String)
    (x : Entry) : c' id = some x ∧ c id = none ↔
      ∃ target, (∀ y, ¬ c.LiveFor target y) ∧ batch.find? (fun e => e.target == target) = some x ∧ x.id = id := by
  induction hb with
  | nil =>
    refine iff_of_false (fun h => ?_) (fun ⟨_, _, hnil, _⟩ => nomatch hnil)
    rw [h.2] at h
    cases h.1
  | @known c c' item y rest answers hy hrest ih =>
    rw [ih fun other hother => hlive other (List.mem_cons_of_mem item hother)]
    refine exists_congr fun target => and_congr_right fun hfree => ?_
    -- the target of the item is not among those that had none
    have hother : (item.target == target) = false := beq_eq_false_iff_ne.mpr fun heq => hfree y (heq ▸ hy)
    rw [List.find?_cons, hother]
  | @fresh c c' item rest answers hfree hid hrest ih =>
    have hitem : item.isLiveFor item.target = true := isLiveFor_iff.mpr ⟨hlive item List.mem_cons_self, rfl⟩
    -- what is new is the item, or is new over the contents that have it
    rw [new_iff_of_store hid hrest.keeps_stored, ih fun other hother => hlive other (List.mem_cons_of_mem item hother)]
    constructor
    · rintro (⟨rfl, hxid⟩ | ⟨target, hnone, hfound, hxid⟩)
      · exact ⟨x.target, hfree, by rw [List.find?_cons, beq_self_eq_true], hxid⟩
      · have hne : (item.target == target) = false := by
          refine beq_eq_false_iff_ne.mpr fun heq => ?_
          exact hnone item ((liveFor_store_iff hid).mpr (.inr ⟨rfl, heq ▸ hitem⟩))
        refine ⟨target, fun y hy => hnone y (hy.store hid), ?_, hxid⟩
        rw [List.find?_cons, hne, hfound]
    · rintro ⟨target, hnone, hfound, hxid⟩
      rw [List.find?_cons] at hfound
      by_cases heq : item.target = target
      · rw [heq, beq_self_eq_true] at hfound
        cases hfound
        exact .inl ⟨rfl, hxid⟩
      · rw [beq_eq_false_iff_ne.mpr heq] at hfound
        refine .inr ⟨target, fun y hy => ?_, hfound, hxid⟩
        rcases (liveFor_store_iff hid).mp hy with hy | ⟨rfl, hy⟩
        · exact hnone y hy
        · exact heq (isLiveFor_iff.mp hy).2

end Contents

namespace Service

open Identifier (Draws)

variable {owner : String} {items : List Submission}

theorem firstBadItem?_eq_some {index k : Nat} {item : Submission} {cause : TargetError} (hitem : items[k]? = some item)
    (hbad : checkTarget item.target = .error cause) (hfirst : ∀ other ∈ items.take k, checkTarget other.target = .ok ()) :
    firstBadItem? index items = some (.badItem (index + k) item cause) := by
  induction items generalizing index k with
  | nil => cases hitem
  | cons first rest ih =>
    cases k with
    | zero =>
      cases hitem
      rw [firstBadItem?, hbad]
      rfl
    | succ k =>
      rw [List.take_succ_cons] at hfirst
      rw [firstBadItem?, hfirst first List.mem_cons_self]
      have hlater := @ih (index + 1) k hitem fun other hother => hfirst other (List.mem_cons_of_mem first hother)
      rw [Nat.add_right_comm] at hlater
      exact hlater

theorem bad_of_firstBadItem? {index : Nat} {e : ServiceError} (h : firstBadItem? index items = some e) :
    ∃ item ∈ items, ∃ index cause, checkTarget item.target = .error cause ∧ e = .badItem index item cause := by
  induction items generalizing index with
  | nil => cases h
  | cons first rest ih =>
    unfold firstBadItem? at h
    cases hcheck : checkTarget first.target with
    | error cause =>
      rw [hcheck] at h
      cases h
      exact ⟨first, List.mem_cons_self, index, cause, hcheck, rfl⟩
    | ok =>
      rw [hcheck] at h
      obtain ⟨item, hitem, hrest⟩ := ih h
      exact ⟨item, List.mem_cons_of_mem first hitem, hrest⟩

theorem all_ok_of_firstBadItem? {index : Nat} (h : firstBadItem? index items = none) :
    ∀ item ∈ items, checkTarget item.target = .ok () := by
  induction items generalizing index with
  | nil => exact nofun
  | cons first rest ih =>
    unfold firstBadItem? at h
    cases hcheck : checkTarget first.target with
    | error cause =>
      rw [hcheck] at h
      cases h
    | ok =>
      rw [hcheck] at h
      intro item hitem
      rcases List.mem_cons.mp hitem with rfl | hmem
      · exact hcheck
      · exact ih h item hmem

theorem find?_batchEntries {ids : List String} {target : String} {x : Entry} :
    (batchEntries owner items ids).find? (fun e => e.target == target) = some x ↔
      ∃ item id, (items.zip ids).find? (fun p => p.1.target == target) = some (item, id) ∧
        x = requested owner target id item.correlation := by
  unfold batchEntries
  rw [List.find?_map, Option.map_eq_some_iff]
  constructor
  · rintro ⟨⟨item, id⟩, hfound, rfl⟩
    have hsome := List.find?_some hfound
    have htarget : item.target = target := beq_iff_eq.mp hsome
    exact ⟨item, id, hfound, htarget ▸ Entry.create_eq_requested owner item.target id item.correlation⟩
  · rintro ⟨item, id, hfound, rfl⟩
    have hsome := List.find?_some hfound
    have htarget : item.target = target := beq_iff_eq.mp hsome
    exact ⟨(item, id), hfound, htarget ▸ Entry.create_eq_requested owner item.target id item.correlation⟩

variable {σ : Type} [Store σ] [LawfulStore σ] {s s' : Service σ} {n : Nat}

theorem firstTaken?_batchEntries {ids : List String} (hlength : ids.length = items.length) (hnodup : ids.Nodup) :
    firstTaken? (fun id => (s.contents id).isSome) (batchEntries owner items ids) = none ↔
      ∀ id ∈ ids, s.contents id = none := by
  have hids : (batchEntries owner items ids).map Entry.id = ids := map_id_batchEntries hlength
  constructor
  · intro hnone id hid
    rw [← hids] at hid
    obtain ⟨e, he, rfl⟩ := List.mem_map.mp hid
    simpa using (firstTaken?_eq_none_iff.mp hnone).2 e he
  · intro hfree
    refine firstTaken?_eq_none (hids.symm ▸ hnodup) fun e he => ?_
    have hmem := List.mem_map_of_mem (f := Entry.id) he
    rw [hids] at hmem
    rw [hfree e.id hmem]
    rfl

structure Answered (s s' : Service σ) (owner : String) (items : List Submission) (taken : List (List String))
    (ids : List String) (random : Random) (stored : List Entry) : Prop where
  draws : Draws (Identifier.generateDistinct items.length s.shortIdLength) s.random (taken ++ [ids]) random
  passed (other : List String) : other ∈ taken → ¬ ∀ id ∈ other, s.contents id = none
  free (id : String) : id ∈ ids → s.contents id = none
  state_eq : ∃ store, s' = (s.withRandom random).withStore store
  answers : s.contents.Answers (batchEntries owner items ids) stored s'.contents
  agrees (a : Entry) : a ∈ stored → ∀ b ∈ stored, a.target = b.target → a.id = b.id

theorem Answered.cons {taken : List (List String)} {ids tried : List String} {random : Random} {stored : List Entry}
    (hdrawn : (Identifier.generateDistinct items.length s.shortIdLength s.random).1 = .ok tried)
    (hused : ¬ ∀ id ∈ tried, s.contents id = none)
    (h : (s.withRandom (Identifier.generateDistinct items.length s.shortIdLength s.random).2).Answered s' owner items
      taken ids random stored) : s.Answered s' owner items (tried :: taken) ids random stored where
  draws := .cons hdrawn h.draws
  passed other hother := by
    rcases List.mem_cons.mp hother with rfl | hmem
    · exact hused
    · exact h.passed other hmem
  free := h.free
  state_eq := h.state_eq
  answers := h.answers
  agrees := h.agrees

section Precise

variable [PreciseStore σ]

/-- A batch is stored in the first attempt that draws free identifiers only, or the request fails and the store is as it
was. -/
theorem addBatchFresh_cases {r : Except ServiceError (List Entry)} (h : s.Ready)
    (hends : (addBatchFresh owner items n).Ends s r s') :
    (∃ taken ids random stored, taken.length < n ∧ r = .ok stored ∧ s.Answered s' owner items taken ids random stored) ∨
    (∃ message details, r = .error (.internal message details)) ∧ s'.pipeline = s.pipeline := by
  -- a refused attempt leaves another source in front of the same store, which is why the induction is over all states
  induction n generalizing s with
  | zero =>
    obtain ⟨rfl, rfl⟩ := Action.ends_fail.mp hends
    exact .inr ⟨⟨_, _, rfl⟩, rfl⟩
  | succ n ih =>
    cases hdrawn : (Identifier.generateDistinct items.length s.shortIdLength s.random).1 with
    | error e =>
      obtain ⟨rfl, rfl⟩ := (addBatchFresh_undrawn hdrawn).mp hends
      exact .inr ⟨⟨_, _, rfl⟩, rfl⟩
    | ok ids =>
      have hfree : firstTaken? (fun id => (s.contents id).isSome) (batchEntries owner items ids) = none ↔
          ∀ id ∈ ids, s.contents id = none :=
        firstTaken?_batchEntries (Identifier.length_generateDistinct hdrawn) (Identifier.nodup_generateDistinct hdrawn)
      rcases PreciseStore.createBatch_cases h (batchEntries owner items ids) with
        ⟨htaken, id, hbatch⟩ | ⟨hnone, stored, store, hbatch, -, hanswers⟩
      · have hagain := Action.ends_emit_bind.mp ((addBatchFresh_attempt hdrawn hbatch).mp hends)
        rcases ih (s := s.withRandom (Identifier.generateDistinct items.length s.shortIdLength s.random).2) h hagain with
          ⟨taken, ids', random, stored, hlength, hr, hanswered⟩ | hfailed
        · exact .inl ⟨ids :: taken, ids', random, stored, Nat.succ_lt_succ hlength, hr,
            .cons hdrawn (fun hall => htaken (hfree.mpr hall)) hanswered⟩
        · exact .inr hfailed
      · obtain ⟨hr, rfl⟩ := Action.ends_pure.mp ((addBatchFresh_attempt hdrawn hbatch).mp hends)
        refine .inl ⟨[], ids, (Identifier.generateDistinct items.length s.shortIdLength s.random).2, stored, Nat.succ_pos n, hr, ?_⟩
        exact ⟨.single hdrawn, nofun, hfree.mp hnone, ⟨store, rfl⟩, hanswers,
          PreciseStore.createBatch_agrees _ _ _ _ h live_of_mem_batchEntries hbatch⟩

theorem createBatch_cases {r : Except ServiceError (List Entry)} (h : s.Ready)
    (hok : ∀ item ∈ items, checkTarget item.target = .ok ()) (hends : (createBatch owner items).Ends s r s') :
    (∃ taken ids random stored, taken.length < maxAttempts ∧ r = .ok stored ∧
      s.Answered s' owner items taken ids random stored) ∨
    (∃ message details, r = .error (.internal message details)) ∧ s'.pipeline = s.pipeline := by
  by_cases hnil : items = []
  · subst hnil
    have hpure : (pure [] : Action ServiceError (Service σ) (List Entry)).Ends s r s' := hends
    obtain ⟨rfl, rfl⟩ := Action.ends_pure.mp hpure
    have hdrawn := Identifier.generateDistinct_zero s'.shortIdLength s'.random
    refine .inl ⟨[], [], s'.random, [], by decide, rfl, ?_⟩
    refine ⟨Draws.single_iff.mpr ⟨congrArg Prod.fst hdrawn, congrArg Prod.snd hdrawn⟩, nofun, nofun, ⟨_, rfl⟩, .nil _, nofun⟩
  · rw [createBatch_of_ok hnil hok] at hends
    exact addBatchFresh_cases h hends

end Precise

/-- What it means that a list of targets has been shortened. -/
structure Shortened (s s' : Service σ) (owner : String) (items : List Submission) (stored : List Entry) : Prop where
  targets_eq : stored.map Entry.target = items.map Submission.target
  correlations_eq : stored.map Entry.correlation = items.map Submission.correlation
  id_eq_iff (a b : Entry) : a ∈ stored → b ∈ stored → (a.id = b.id ↔ a.target = b.target)
  resolves (a : Entry) : a ∈ stored → ∃ x, s'.Stored a.id x ∧ x.isLiveFor a.target = true ∧ x.owner = a.owner
  known (a : Entry) : a ∈ stored → ¬ s.Vacant a.target →
    ∃ x, s.Stored a.id x ∧ x.isLiveFor a.target = true ∧ x.owner = a.owner
  kept (id : String) (e : Entry) : s.Stored id e → s'.Stored id e
  /-- The identifiers come from the first attempt in which all that are drawn are free. There is one new entry for each
  target that had none, as the first item with the target asks for it and under the identifier drawn for that item. -/
  new : ∃ taken ids random store, FirstFree (Identifier.generateDistinct items.length s.shortIdLength)
      (fun ids => ∀ id ∈ ids, s.Unused id) s.random taken ids random ∧ ids.length = items.length ∧ ids.Nodup ∧
    s' = (s.withRandom random).withStore store ∧ ∀ id x, s'.Stored id x ∧ s.Unused id ↔
      ∃ target item, s.Vacant target ∧ (items.zip ids).find? (fun p => p.1.target == target) = some (item, id) ∧
        x = requested owner target id item.correlation

/-- How a request to shorten a list of targets ends. -/
structure CreatesBatch (s s' : Service σ) (owner : String) (items : List Submission)
    (r : Except ServiceError (List Entry)) : Prop where
  shortened {stored : List Entry} : r = .ok stored → s.Shortened s' owner items stored
  /-- The first item whose target is no acceptable URL is named. Nothing is drawn and nothing is stored. -/
  refused {index : Nat} {item : Submission} {cause : TargetError} (hitem : items[index]? = some item)
    (hbad : checkTarget item.target = .error cause)
    (hfirst : ∀ other ∈ items.take index, checkTarget other.target = .ok ()) :
    r = .error (.badItem index item cause) ∧ s' = s
  failed {e : ServiceError} : r = .error e → s'.pipeline = s.pipeline ∧
    ((∃ message details, e = .validation message details) ↔ ∃ item ∈ items, checkTarget item.target ≠ .ok ())

variable {taken : List (List String)} {ids : List String} {random : Random} {stored : List Entry}

theorem Answered.shortened (h : s.Answered s' owner items taken ids random stored) (hready : s.Ready)
    (hready' : s'.Ready) (hwithin : taken.length < maxAttempts) : s.Shortened s' owner items stored := by
  obtain ⟨before, hdrawn⟩ := h.draws.drawn_of_mem (List.mem_append_right taken (List.mem_singleton_self ids))
  have hlength := Identifier.length_generateDistinct hdrawn
  have hlive : ∀ a ∈ stored, ∃ x, s'.contents.LiveFor a.target x ∧ a.id = x.id ∧ a.owner = x.owner ∧
      ((∃ y, s.contents.LiveFor a.target y) → s.contents.LiveFor a.target x) :=
    h.answers.answered live_of_mem_batchEntries
  constructor
  case targets_eq => exact h.answers.targets_eq.trans (map_target_batchEntries hlength)
  case correlations_eq => exact h.answers.correlations_eq.trans (map_correlation_batchEntries hlength)
  case id_eq_iff =>
    intro a b ha hb
    refine ⟨fun hid => ?_, h.agrees a ha b hb⟩
    obtain ⟨x, hx, haid, -⟩ := hlive a ha
    obtain ⟨y, hy, hbid, -⟩ := hlive b hb
    have hsame := hx.1
    rw [← haid, hid, hbid, hy.1] at hsame
    cases hsame
    exact hx.target_eq.symm.trans hy.target_eq
  case resolves =>
    intro a ha
    obtain ⟨x, hx, haid, howner, -⟩ := hlive a ha
    exact ⟨x, hready'.stored_iff.mpr (haid ▸ hx.1), hx.2, howner.symm⟩
  case known =>
    intro a ha htaken
    obtain ⟨x, -, haid, howner, hold⟩ := hlive a ha
    rw [hready.vacant_iff, not_forall_not] at htaken
    have hx := hold htaken
    exact ⟨x, hready.stored_iff.mpr (haid ▸ hx.1), hx.2, howner.symm⟩
  case kept =>
    intro id e he
    rw [hready.stored_iff] at he
    rw [hready'.stored_iff, h.answers.keeps (he ▸ Option.some_ne_none e), he]
  case new =>
    obtain ⟨store, hs'⟩ := h.state_eq
    refine ⟨taken, ids, random, store, ⟨h.draws, hwithin, fun other hother hall => ?_, fun id hid => ?_⟩, hlength,
      Identifier.nodup_generateDistinct hdrawn, hs', fun id x => ?_⟩
    · exact h.passed other hother fun id hid => hready.unused_iff.mp (hall id hid)
    · exact hready.unused_iff.mpr (h.free id hid)
    · rw [hready'.stored_iff, hready.unused_iff, h.answers.new_iff live_of_mem_batchEntries]
      refine exists_congr fun target => ?_
      rw [hready.vacant_iff, find?_batchEntries]
      constructor
      · rintro ⟨hfree, ⟨item, _, hfound, rfl⟩, rfl⟩
        exact ⟨item, hfree, hfound, rfl⟩
      · rintro ⟨item, hfree, hfound, rfl⟩
        exact ⟨hfree, ⟨item, id, hfound, rfl⟩, rfl⟩

theorem Ready.createsBatch [PreciseStore σ] {r : Except ServiceError (List Entry)} (h : s.Ready)
    (hends : (createBatch owner items).Ends s r s') : s.CreatesBatch s' owner items r := by
  have hready' := (createBatch_progress h hends).1
  cases hbad : firstBadItem? 0 items with
  | some e =>
    obtain ⟨item, hitem, index, cause, hcause, rfl⟩ := bad_of_firstBadItem? hbad
    have hrefused := hends
    unfold createBatch at hrefused
    rw [hbad] at hrefused
    obtain ⟨rfl, rfl⟩ := Action.ends_fail.mp hrefused
    constructor
    case shortened => exact nofun
    case refused =>
      intro k other cause' hother hcause' hfirst
      have hsome : firstBadItem? 0 items = some (.badItem (0 + k) other cause') :=
        firstBadItem?_eq_some hother hcause' hfirst
      rw [hbad, Nat.zero_add] at hsome
      exact ⟨congrArg Except.error (Option.some.inj hsome), rfl⟩
    case failed =>
      intro e he
      cases he
      exact ⟨rfl, fun _ => ⟨item, hitem, by rw [hcause]; exact nofun⟩, fun _ => ⟨_, _, rfl⟩⟩
  | none =>
    have hok := all_ok_of_firstBadItem? hbad
    have hnotBad : ¬ ∃ item ∈ items, checkTarget item.target ≠ .ok () := fun ⟨item, hitem, hne⟩ => hne (hok item hitem)
    constructor
    case shortened =>
      rintro stored rfl
      rcases createBatch_cases h hok hends with ⟨taken, ids, random, stored', hwithin, heq, hanswered⟩ | ⟨⟨_, _, heq⟩, -⟩
      · cases heq
        exact hanswered.shortened h hready' hwithin
      · cases heq
    case refused =>
      intro index item cause hitem hcause hfirst
      rw [hok item (List.mem_of_getElem? hitem)] at hcause
      cases hcause
    case failed =>
      rintro e rfl
      rcases createBatch_cases h hok hends with ⟨taken, ids, random, stored', hwithin, heq, -⟩ | ⟨⟨_, _, heq⟩, hsame⟩
      · cases heq
      · cases heq
        exact ⟨hsame, fun ⟨_, _, hvalidation⟩ => (nomatch hvalidation), fun hsome => absurd hsome hnotBad⟩

/-- A request to shorten a list of targets ends as it should, in front of a memory store after any calls and of a file
store that was opened on any log and whose disk does not fail. -/
theorem createBatch_shortens (owner : String) (items : List Submission) :
    (∀ s : Service MemoryStore, s.pipeline.store.Reached →
      ∃ r s', (createBatch owner items).Ends s r s' ∧ s.CreatesBatch s' owner items r) ∧
    ∀ s : Service FileStore, s.pipeline.store.Reached →
      ∃ r s', (createBatch owner items).Ends s r s' ∧ s.CreatesBatch s' owner items r := by
  constructor
  · intro s hs
    have hready : s.Ready := hs.ready
    exact ⟨_, _, Action.ends_run _ s, hready.createsBatch (Action.ends_run _ s)⟩
  · intro s hs
    have hready : s.Ready := hs.ready
    exact ⟨_, _, Action.ends_run _ s, hready.createsBatch (Action.ends_run _ s)⟩

def twiceShortened : List Submission := [⟨"http://[::]", some "c"⟩, ⟨"http://[::1]", none⟩, ⟨"http://[::]", some "d"⟩]

/-- A batch that is stored at once, and one that is refused. -/
theorem blank_createBatch_shortens :
    (∃ stored s', (createBatch "u" twiceShortened).Ends (started MemoryStore.empty countingRandom 8 16 2 4) (.ok stored) s' ∧
      (started MemoryStore.empty countingRandom 8 16 2 4).Shortened s' "u" twiceShortened stored) ∧
    ∃ store, FileStore.Opens "log" FileStore.notedDisk store ∧
      (createBatch "u" [⟨"http://[::]", none⟩, ⟨"ftp://[::]", some "c"⟩]).Ends (started store countingRandom 8 16 2 4)
        (.error (.badItem 1 ⟨"ftp://[::]", some "c"⟩ .unsupportedProtocol)) (started store countingRandom 8 16 2 4) := by
  constructor
  · have hready : (started MemoryStore.empty countingRandom 8 16 2 4).Ready := MemoryStore.empty_consistent
    have hnothing : ∀ id, (started MemoryStore.empty countingRandom 8 16 2 4).contents id = none :=
      fun id => congrFun MemoryStore.contents_empty id
    have hok : ∀ item ∈ twiceShortened, checkTarget item.target = .ok () := by
      simp only [twiceShortened, List.forall_mem_cons]
      exact ⟨by decide +kernel, by decide +kernel, by decide +kernel, nofun⟩
    have hdrawn : (Identifier.generateDistinct 3 8 countingRandom).1 = .ok ["aaaaaaaa", "bbbbbbbb", "cccccccc"] := by decide +kernel
    obtain ⟨r, s', hends, hcreates⟩ := (createBatch_shortens "u" twiceShortened).1
      (started MemoryStore.empty countingRandom 8 16 2 4) ⟨[], rfl⟩
    obtain ⟨stored, rfl⟩ := createBatch_of_drawn hready hok hdrawn (fun id _ => hnothing id) hends
    exact ⟨stored, s', hends, hcreates.shortened rfl⟩
  · obtain ⟨store, hopens⟩ := FileStore.notedDisk_opens
    obtain ⟨r, s', hends, hcreates⟩ := (createBatch_shortens "u" [⟨"http://[::]", none⟩, ⟨"ftp://[::]", some "c"⟩]).2
      (started store countingRandom 8 16 2 4) ⟨"log", _, store, [], hopens, (fun _ h => by cases h), rfl⟩
    have hfirst : ∀ other ∈ [(⟨"http://[::]", none⟩ : Submission)], checkTarget other.target = .ok () := by
      intro other hother
      rw [List.mem_singleton.mp hother]
      decide +kernel
    have hrefused : r = .error (.badItem 1 ⟨"ftp://[::]", some "c"⟩ .unsupportedProtocol) ∧ s' = _ :=
      hcreates.refused rfl (by decide +kernel) hfirst
    obtain ⟨rfl, rfl⟩ := hrefused
    exact ⟨store, hopens, hends⟩

end Service
end ShortLinks
