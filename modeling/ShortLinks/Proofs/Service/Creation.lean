import ShortLinks.Proofs.Service.Isolation
import ShortLinks.Proofs.Service.Waiting
import ShortLinks.Proofs.Store.Precise

/-!
# How creating ends

One request to shorten a target, in every case: which answer it gets, how many identifiers are drawn for it, and what
becomes of the store. An identifier is drawn before the store is asked, so where that fails the request fails, whether its
target is taken or not; and where a draw has no end, the request has no answer.
-/

set_option autoImplicit false

namespace ShortLinks.Service

open Identifier (Draws Endless DrawError generate)

variable {σ : Type} [Store σ] [LawfulStore σ] [PreciseStore σ] {s s' : Service σ} {owner target id : String}
  {taken : List String} {between after : Random} {n patience code : Nat}

theorem existing_of_stored {requested x : Entry} (h : s.Ready) (hx : s.contents x.id = some x) :
    (existing requested x.id).Ends s (.ok (.existing x)) s := by
  have hends := Action.ends_run (existing requested x.id) s
  refine ⟨(existing_ends h hx hends).2.1, ?_⟩
  rcases Action.ends_bind.mp hends with ⟨found, s₁, hget, hrest⟩ | ⟨e, hget, -⟩
  · obtain ⟨r₀, store, hcall, -, rfl⟩ := onStore_ends hget
    obtain rfl := PreciseStore.getById_state _ store x.id r₀ h hcall
    cases found <;> exact (Action.ends_pure.mp hrest).2
  · obtain ⟨r₀, store, hcall, -, hstate⟩ := onStore_ends hget
    obtain rfl := PreciseStore.getById_state _ store x.id r₀ h hcall
    exact hstate

theorem addFresh_existing (owner : String) (h : s.Ready) (hlive : ∃ x, s.contents.LiveFor target x)
    (hdrawn : generate s.shortIdLength (s.random.withPatience patience) = (.ok id, after)) :
    ∃ x, s.contents.LiveFor target x ∧ s.Returns (addFresh owner target (n + 1)) (.ok (.existing x)) (s.withRandom after) := by
  obtain ⟨y, hy⟩ := hlive
  rcases PreciseStore.add_cases h (Entry.create id target (some owner) none) with
    ⟨x, hx, hadd⟩ | ⟨hfree, -⟩ | ⟨hfree, -⟩
  · refine ⟨x, hx, (addFresh_returns_iff hdrawn hadd).mpr (returns_of_ends fun longer => ?_)⟩
    exact existing_of_stored (s := (s.withRandom after).waiting longer) h hx.1
  · exact absurd hy (hfree y)
  · exact absurd hy (hfree y)

theorem addFresh_created (owner : String) (h : s.Ready) (hfree : ∀ x, ¬ s.contents.LiveFor target x)
    (hdrawn : generate s.shortIdLength (s.random.withPatience patience) = (.ok id, after)) (hnew : s.contents id = none) :
    ∃ store, s.Returns (addFresh owner target (n + 1)) (.ok (.created (Entry.create id target (some owner) none)))
        ((s.withRandom after).withStore store) ∧ ((s.withRandom after).withStore store).Ready ∧
      ((s.withRandom after).withStore store).contents = s.contents.store (Entry.create id target (some owner) none) := by
  rcases PreciseStore.add_cases h (Entry.create id target (some owner) none) with
    ⟨x, hx, -⟩ | ⟨-, hused, -⟩ | ⟨-, -, store, hadd, hready, hcontents⟩
  · exact absurd hx (hfree x)
  · exact absurd hnew hused
  · refine ⟨store, (addFresh_returns_iff hdrawn hadd).mpr (returns_of_ends fun _ => ?_), hready, hcontents⟩
    exact Action.ends_pure.mpr ⟨rfl, rfl⟩

theorem addFresh_skip_iff {r : Except ServiceError CreateOutcome} (h : s.Ready)
    (hfree : ∀ x, ¬ s.contents.LiveFor target x)
    (hdraws : Draws (generate s.shortIdLength) (s.random.withPatience patience) taken after)
    (hused : ∀ id ∈ taken, s.contents id ≠ none) :
    s.Returns (addFresh owner target (taken.length + n)) r s' ↔ (s.withRandom after).Returns (addFresh owner target n) r s' := by
  -- each attempt changes the source only, so the target stays free and the identifiers stay taken
  induction taken generalizing s after with
  | nil =>
    cases hdraws
    rw [List.length_nil, Nat.zero_add]
    exact Iff.rfl
  | cons id taken ih =>
    cases hdraws with
    | cons hdrawn hrest =>
      have hlonger : Draws (generate s.shortIdLength)
          ((generate s.shortIdLength (s.random.withPatience patience)).2.withPatience patience) taken
          (after.withPatience patience) :=
        hrest.withPatience (Identifier.patience_generate (Prod.ext hdrawn rfl)).le
      have hlater := ih (s := s.withRandom (generate s.shortIdLength (s.random.withPatience patience)).2) h hfree hlonger
        fun other hother => hused other (List.mem_cons_of_mem id hother)
      rw [List.length_cons, Nat.add_right_comm]
      rcases PreciseStore.add_cases h (Entry.create id target (some owner) none) with
        ⟨x, hx, -⟩ | ⟨-, -, hadd⟩ | ⟨-, hnew, -⟩
      · exact absurd hx (hfree x)
      · exact (addFresh_returns_iff (Prod.ext hdrawn rfl) hadd).trans (returns_emit_bind.trans hlater)
      · exact absurd hnew (hused id List.mem_cons_self)

section Requests

variable (s : Service σ)

/-- Another attempt is made, with this source: there was none before, or the target has no live entry and all that was
drawn for it is in use. -/
structure Attempts (target : String) (taken : List String) (between : Random) : Prop where
  draws : ∃ patience, Draws (generate s.shortIdLength) (s.random.withPatience patience) taken between
  within : taken.length < maxAttempts
  vacant : taken ≠ [] → s.Vacant target
  used (id : String) : id ∈ taken → ¬ s.Unused id

/-- What a request to shorten a target comes to, in every case. A `patience` is how long the source is waited for, and any
will do with which it gives what is said of it. -/
structure Creates (owner target : String) : Prop where
  refused {cause : TargetError} : checkTarget target = .error cause →
    s.Returns (create owner target) (.error (.badTarget cause)) s
  /-- A target that has a live entry is answered by that entry, after one identifier has been drawn. -/
  existing {patience : Nat} {id : String} {after : Random} : checkTarget target = .ok () → ¬ s.Vacant target →
    Draws (generate s.shortIdLength) (s.random.withPatience patience) [id] after →
    ∃ known x, s.Stored known x ∧ x.isLiveFor target = true ∧
      s.Returns (create owner target) (.ok (.existing x)) (s.withRandom after)
  created {patience : Nat} {taken : List String} {id : String} {after : Random} : checkTarget target = .ok () →
    s.Vacant target →
    FirstFree (generate s.shortIdLength) s.Unused (s.random.withPatience patience) taken id after →
    ∃ store s', s' = (s.withRandom after).withStore store ∧
      s.Returns (create owner target) (.ok (.created (requested owner target id none))) s' ∧
      s'.Stored id (requested owner target id none) ∧
      ∀ other x, s'.Stored other x ↔ s.Stored other x ∨ other = id ∧ x = requested owner target id none
  failed {taken : List String} {between after : Random} {code : Nat} : checkTarget target = .ok () →
    s.Attempts target taken between → generate s.shortIdLength between = (.error (.randomSource code), after) →
    s.Returns (create owner target) (.error (.noIdentifier (DrawError.randomSource code).message)) (s.withRandom after)
  /-- Where all identifiers are in use that may be drawn for it, the request fails. -/
  exhausted {patience : Nat} {taken : List String} {after : Random} : checkTarget target = .ok () → s.Vacant target →
    Draws (generate s.shortIdLength) (s.random.withPatience patience) taken after → taken.length = maxAttempts →
    (∀ id ∈ taken, ¬ s.Unused id) →
    s.Returns (create owner target) (.error .tooManyCollisions) (s.withRandom after)
  /-- There is an answer unless the draw for an attempt has no end. -/
  returns_iff : checkTarget target = .ok () → ((∃ r s', s.Returns (create owner target) r s') ↔
    ∀ taken between, s.Attempts target taken between → ¬ Endless s.shortIdLength between)
  /-- No entry that was there before, live or deleted, is written over. -/
  kept {r : Except ServiceError CreateOutcome} {s' : Service σ} {id : String} {e : Entry} :
    s.Returns (create owner target) r s' → s.Stored id e → s'.Stored id e

end Requests

section Cases

variable (h : s.Ready) (hok : checkTarget target = .ok ())

include h hok

theorem create_existing (owner : String) (hlive : ¬ s.Vacant target)
    (hdraws : Draws (generate s.shortIdLength) (s.random.withPatience patience) [id] after) :
    ∃ known x, s.Stored known x ∧ x.isLiveFor target = true ∧
      s.Returns (create owner target) (.ok (.existing x)) (s.withRandom after) := by
  rw [h.vacant_iff, not_forall_not] at hlive
  obtain ⟨hdrawn, hafter⟩ := Draws.single_iff.mp hdraws
  obtain ⟨x, hx, hreturns⟩ :=
    addFresh_existing (n := maxAttempts - 1) owner h hlive (Prod.ext hdrawn hafter)
  rw [create_of_ok hok]
  exact ⟨x.id, x, h.stored_iff.mpr hx.1, hx.2, hreturns⟩

theorem create_created (owner : String) (hvacant : s.Vacant target)
    (hfound : FirstFree (generate s.shortIdLength) s.Unused (s.random.withPatience patience) taken id after) :
    ∃ store s', s' = (s.withRandom after).withStore store ∧
      s.Returns (create owner target) (.ok (.created (requested owner target id none))) s' ∧
      s'.Stored id (requested owner target id none) ∧
      ∀ other x, s'.Stored other x ↔ s.Stored other x ∨ other = id ∧ x = requested owner target id none := by
  rw [h.vacant_iff] at hvacant
  obtain ⟨between, htaken, hdraw⟩ := Draws.concat_iff.mp hfound.draws
  have hused : ∀ d ∈ taken, s.contents d ≠ none := fun d hd hnone => hfound.passed d hd (h.unused_iff.mpr hnone)
  have hnew := h.unused_iff.mp hfound.free
  obtain ⟨n, hlength⟩ := Nat.exists_eq_add_of_lt hfound.within
  obtain ⟨store, hreturns, hready, hcontents⟩ :=
    addFresh_created (s := s.withRandom between) (n := n) owner h hvacant hdraw hnew
  rw [Entry.create_eq_requested] at hreturns hcontents
  change ((s.withRandom after).withStore store).Ready at hready
  change ((s.withRandom after).withStore store).contents = s.contents.store _ at hcontents
  have hstored : ∀ other x, ((s.withRandom after).withStore store).Stored other x ↔
      s.Stored other x ∨ other = id ∧ x = requested owner target id none := by
    intro other x
    rw [hready.stored_iff, h.stored_iff, hcontents]
    exact Contents.store_eq_some_iff (e := requested owner target id none) hnew
  rw [create_of_ok hok, hlength, Nat.add_assoc]
  exact ⟨store, _, rfl, (addFresh_skip_iff h hvacant htaken hused).mpr hreturns, (hstored id _).mpr (.inr ⟨rfl, rfl⟩),
    hstored⟩

theorem Attempts.returns_iff {r : Except ServiceError CreateOutcome} (hattempts : s.Attempts target taken between) :
    ∃ n, s.Returns (create owner target) r s' ↔ (s.withRandom between).Returns (addFresh owner target (n + 1)) r s' := by
  obtain ⟨n, hlength⟩ := Nat.exists_eq_add_of_lt hattempts.within
  obtain ⟨patience, hdraws⟩ := hattempts.draws
  have hused : ∀ id ∈ taken, s.contents id ≠ none :=
    fun id hid hnone => hattempts.used id hid (h.unused_iff.mpr hnone)
  rw [create_of_ok hok, hlength, Nat.add_assoc]
  refine ⟨n, ?_⟩
  by_cases hnil : taken = []
  · subst hnil
    cases hdraws
    rw [List.length_nil, Nat.zero_add]
    exact Iff.rfl
  · exact addFresh_skip_iff h (h.vacant_iff.mp (hattempts.vacant hnil)) hdraws hused

theorem create_failed (hattempts : s.Attempts target taken between)
    (hfails : generate s.shortIdLength between = (.error (.randomSource code), after)) :
    s.Returns (create owner target) (.error (.noIdentifier (DrawError.randomSource code).message)) (s.withRandom after) := by
  obtain ⟨n, hiff⟩ := hattempts.returns_iff h hok
  exact hiff.mpr (addFresh_returns_failure (s := s.withRandom between) hfails)

theorem create_exhausted (hvacant : s.Vacant target)
    (hdraws : Draws (generate s.shortIdLength) (s.random.withPatience patience) taken after)
    (hlength : taken.length = maxAttempts) (hused : ∀ id ∈ taken, ¬ s.Unused id) :
    s.Returns (create owner target) (.error .tooManyCollisions) (s.withRandom after) := by
  have htaken : ∀ id ∈ taken, s.contents id ≠ none := fun id hid hnone => hused id hid (h.unused_iff.mpr hnone)
  rw [create_of_ok hok, ← hlength, ← Nat.add_zero taken.length]
  refine (addFresh_skip_iff h (h.vacant_iff.mp hvacant) hdraws htaken).mpr (returns_of_ends fun _ => ?_)
  exact Action.ends_fail.mpr ⟨rfl, rfl⟩

theorem not_create_returns {r : Except ServiceError CreateOutcome} (hattempts : s.Attempts target taken between)
    (hendless : Endless s.shortIdLength between) : ¬ s.Returns (create owner target) r s' := by
  obtain ⟨n, hiff⟩ := hattempts.returns_iff h hok
  exact fun hreturns => not_addFresh_returns (s := s.withRandom between) hendless (hiff.mp hreturns)

/-- Where the draw for another attempt ends, the request has an answer, or what was drawn is in use like all before it. -/
theorem Attempts.returns_or_goes_on (hattempts : s.Attempts target taken between)
    (hending : ¬ Endless s.shortIdLength between) : (∃ r s', s.Returns (create owner target) r s') ∨
      ∃ patience id after, Draws (generate s.shortIdLength) (s.random.withPatience patience) (taken ++ [id]) after ∧
        s.Vacant target ∧ ∀ d ∈ taken ++ [id], ¬ s.Unused d := by
  obtain ⟨⟨patience, hdraws⟩, hwithin, hvacant, hused⟩ := hattempts
  obtain ⟨longer, hends⟩ := (Identifier.endless_or_ends s.shortIdLength between).resolve_left hending
  -- with the longer of the two waits, all that was drawn so far is drawn, and this draw ends
  have hlater := hdraws.withPatience (le_max_left patience longer)
  rcases hends with ⟨id, after, hdraw⟩ | ⟨code, after, hfails⟩
  · have hnext := Identifier.generate_withPatience (r := between.withPatience longer) hdraw (le_max_right patience longer)
    have hall := Draws.concat_iff.mpr ⟨_, hlater, hnext⟩
    by_cases hfree : s.Vacant target
    · by_cases hid : s.Unused id
      · obtain ⟨store, s', -, hreturns, -⟩ := create_created h hok owner hfree ⟨hall, hwithin, hused, hid⟩
        exact .inl ⟨_, s', hreturns⟩
      · refine .inr ⟨_, id, _, hall, hfree, fun d hd => ?_⟩
        rcases List.mem_append.mp hd with hmem | hlast
        · exact hused d hmem
        · exact List.mem_singleton.mp hlast ▸ hid
    · have hnil : taken = [] := by_contra fun hne => hfree (hvacant hne)
      subst hnil
      obtain ⟨known, x, -, -, hreturns⟩ := create_existing h hok owner hfree hall
      exact .inl ⟨_, _, hreturns⟩
  · have hlast := Identifier.generate_failure_withPatience (r := between.withPatience longer) hfails
      (le_max_right patience longer)
    exact .inl ⟨_, _, create_failed h hok ⟨⟨_, hlater⟩, hwithin, hvacant, hused⟩ hlast⟩

theorem create_returns_or_goes_on (hends : ∀ taken between, s.Attempts target taken between → ¬ Endless s.shortIdLength between)
    (n : Nat) (hn : n ≤ maxAttempts) : (∃ r s', s.Returns (create owner target) r s') ∨
      ∃ patience taken after, Draws (generate s.shortIdLength) (s.random.withPatience patience) taken after ∧
        taken.length = n ∧ (taken ≠ [] → s.Vacant target) ∧ ∀ id ∈ taken, ¬ s.Unused id := by
  induction n with
  | zero => exact .inr ⟨0, [], _, .nil _, rfl, fun hne => absurd rfl hne, nofun⟩
  | succ n ih =>
    rcases ih (Nat.le_of_succ_le hn) with hreturns | ⟨patience, taken, between, hdraws, hlength, hvacant, hused⟩
    · exact .inl hreturns
    · have hattempts : s.Attempts target taken between := ⟨⟨patience, hdraws⟩, hlength ▸ hn, hvacant, hused⟩
      rcases hattempts.returns_or_goes_on h hok (hends taken between hattempts) with
        hreturns | ⟨longer, id, after, hall, hfree, htaken⟩
      · exact .inl hreturns
      · have hcount : (taken ++ [id]).length = n + 1 := by
          rw [List.length_append, List.length_singleton, hlength]
        exact .inr ⟨longer, _, after, hall, hcount, fun _ => hfree, htaken⟩

theorem create_returns_iff : (∃ r s', s.Returns (create owner target) r s') ↔
    ∀ taken between, s.Attempts target taken between → ¬ Endless s.shortIdLength between := by
  constructor
  · rintro ⟨r, s', hreturns⟩ taken between hattempts hendless
    exact not_create_returns h hok hattempts hendless hreturns
  · intro hends
    rcases create_returns_or_goes_on h hok hends maxAttempts le_rfl with
      hreturns | ⟨patience, taken, after, hdraws, hlength, hvacant, hused⟩
    · exact hreturns
    · have hne : taken ≠ [] := List.ne_nil_of_length_pos (hlength ▸ by decide)
      exact ⟨_, _, create_exhausted h hok (hvacant hne) hdraws hlength hused⟩

end Cases

theorem Ready.creates (h : s.Ready) (owner target : String) : s.Creates owner target where
  refused hbad := by
    refine returns_of_ends fun _ => ?_
    unfold create
    rw [hbad]
    exact Action.ends_fail.mpr ⟨rfl, rfl⟩
  existing hok hlive hdraws := create_existing h hok owner hlive hdraws
  created hok hvacant hfound := create_created h hok owner hvacant hfound
  failed hok hattempts hfails := create_failed h hok hattempts hfails
  exhausted hok hvacant hdraws hlength hused := create_exhausted h hok hvacant hdraws hlength hused
  returns_iff hok := create_returns_iff h hok
  kept := by
    rintro r s' id e ⟨enough, hends⟩ he
    obtain ⟨hready, hprogress⟩ := create_progress (s := s.waiting enough) h (hends enough le_rfl)
    rw [h.stored_iff] at he
    have hkept : (s'.waiting enough).contents id = some e := (hprogress.keeps rfl (he ▸ Option.some_ne_none e)).trans he
    exact hready.stored_iff.mpr hkept

/-- A request to shorten a target comes to what it should, in front of a memory store after any calls and of a file store
that was opened on any log and whose disk does not fail. -/
theorem create_ends (owner target : String) :
    (∀ s : Service MemoryStore, s.pipeline.store.Reached → s.Creates owner target) ∧
    ∀ s : Service FileStore, s.pipeline.store.Reached → s.Creates owner target := by
  constructor
  · intro s hs
    exact Ready.creates hs.ready owner target
  · intro s hs
    exact Ready.creates hs.ready owner target

def barrenSource : Random := ⟨fun _ => Random.repeated [255], 0, 100⟩

theorem barrenSource_endless {length : Nat} (h : 0 < length) : Endless length barrenSource := by
  have hnone : Identifier.accepted (Random.repeated [255]).bytes = [] := by decide +kernel
  have hstream : ∀ k, Identifier.accepted (barrenSource.stream k) = [] := by
    intro k
    rw [Identifier.accepted, Random.stream, List.filter_flatMap]
    exact List.flatMap_eq_nil_iff.mpr fun _ _ => hnone
  exact fun k => ⟨fun _ _ => ⟨_, rfl⟩, hstream k ▸ h⟩

/-- A free identifier is found for a store that holds nothing, a source whose bytes are all passed over is waited for
without end, and an entry that a log has told of is the answer for its target. -/
theorem blank_create_ends :
    (∃ s', (started MemoryStore.empty Identifier.constantSource 8 16 2 4).Returns (create "u" "http://[::]")
      (.ok (.created (requested "u" "http://[::]" "aaaaaaaa" none))) s' ∧
      s'.Stored "aaaaaaaa" (requested "u" "http://[::]" "aaaaaaaa" none)) ∧
    (∀ r s', ¬ (started MemoryStore.empty barrenSource 8 16 2 4).Returns (create "u" "http://[::]") r s') ∧
    ∃ store, FileStore.Opens "log" (recordedDisk (Entry.create "a" "http://[::]" none none)) store ∧
      ∃ x s', (started store Identifier.constantSource 8 16 2 4).Returns (create "u" "http://[::]") (.ok (.existing x)) s' ∧
        x.isLiveFor "http://[::]" = true := by
  have hok : checkTarget "http://[::]" = .ok () := by decide +kernel
  have hreached : MemoryStore.empty.Reached := ⟨[], rfl⟩
  have hdrawn : (generate 8 (Identifier.constantSource.withPatience 1)).1 = .ok "aaaaaaaa" := by decide +kernel
  refine ⟨?_, fun r s' hreturns => ?_, ?_⟩
  · have hready : (started MemoryStore.empty Identifier.constantSource 8 16 2 4).Ready := MemoryStore.empty_consistent
    have hnothing : ∀ id e, ¬ (started MemoryStore.empty Identifier.constantSource 8 16 2 4).Stored id e := by
      intro id e he
      have hstored : MemoryStore.empty.contents id = some e := hready.stored_iff.mp he
      rw [MemoryStore.contents_empty] at hstored
      cases hstored
    have hfound : FirstFree (generate 8) (started MemoryStore.empty Identifier.constantSource 8 16 2 4).Unused
        (Identifier.constantSource.withPatience 1) [] "aaaaaaaa" _ := ⟨.single hdrawn, by decide, nofun, hnothing "aaaaaaaa"⟩
    obtain ⟨store, s', -, hreturns, hstored, -⟩ :=
      ((create_ends "u" "http://[::]").1 _ hreached).created hok (fun id e he => absurd he (hnothing id e)) hfound
    exact ⟨s', hreturns, hstored⟩
  · have hcreates := (create_ends "u" "http://[::]").1 (started MemoryStore.empty barrenSource 8 16 2 4) hreached
    have hattempts : (started MemoryStore.empty barrenSource 8 16 2 4).Attempts "http://[::]" [] barrenSource :=
      ⟨⟨100, .nil _⟩, by decide, fun hne => absurd rfl hne, nofun⟩
    exact (hcreates.returns_iff hok).mp ⟨r, s', hreturns⟩ [] _ hattempts (barrenSource_endless (by decide))
  · have hsteady : (recordedDisk (Entry.create "a" "http://[::]" none none)).Steady := fun _ h => by cases h
    obtain ⟨store, hopens⟩ := FileStore.exists_opens (recordedDisk_holds _).writable ⟨["log.compact"], by decide, by decide⟩ hsteady
    have hcreates := (create_ends "u" "http://[::]").2 (started store Identifier.constantSource 8 16 2 4)
      ⟨"log", _, store, [], hopens, hsteady, rfl⟩
    have hstored := stored_of_recorded hopens Identifier.constantSource 8 16 2 4
    obtain ⟨known, x, -, hlive, hreturns⟩ := hcreates.existing hok (fun hvacant => nomatch hvacant _ _ hstored) (.single hdrawn)
    exact ⟨store, hopens, x, _, hreturns, hlive⟩

def failingSource : Random := ⟨fun _ => .failure 5, 0, 100⟩

/-- Where the source fails at once, even a target that has a live entry is not answered by it. -/
theorem failingSource_hides_existing :
    let e := Entry.create "a" "http://[::]" none none
    let store := (Action.each Call.perform [.add e] MemoryStore.empty).2
    let s := started store failingSource 8 16 2 4
    store.Reached ∧ checkTarget e.target = .ok () ∧ s.Stored "a" e ∧ e.isLiveFor e.target = true ∧
      ((create "u" e.target).run s).outcome = .error (.noIdentifier "random source failed: Unknown Error: 131077") ∧
      ∀ x, ((create "u" e.target).run s).outcome ≠ .ok (.existing x) := by
  intro e store s
  have houtcome : ((create "u" e.target).run s).outcome =
      .error (.noIdentifier "random source failed: Unknown Error: 131077") := by
    rw [create_of_ok (by decide +kernel)]
    exact ((addFresh_undrawn (n := maxAttempts - 1) (e := .randomSource 5) (by decide +kernel)).mp (Action.ends_run _ s)).1
  refine ⟨⟨_, rfl⟩, by decide +kernel, ?_, rfl, houtcome, fun x heq => ?_⟩
  · have hready : s.Ready := MemoryStore.each_consistent [.add e]
    rw [hready.stored_iff]
    show store.contents "a" = some e
    have hadded : store = MemoryStore.empty.insert e := by
      show ((Reply.id <$> MemoryStore.add e : Action StoreError MemoryStore Reply).run MemoryStore.empty).state = _
      rw [Action.run_map]
      show (MemoryStore.add e MemoryStore.empty).state = _
      simp [MemoryStore.add, MemoryStore.refusal?, MemoryStore.empty]
    rw [hadded, MemoryStore.contents_insert]
    exact Contents.store_self _ e
  · rw [houtcome] at heq
    cases heq

end ShortLinks.Service
