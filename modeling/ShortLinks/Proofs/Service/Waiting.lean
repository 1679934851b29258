import ShortLinks.Proofs.Identifier.Patience

/-!
# What requests come to

A request has an answer if there is one that it ends with however long its source is waited for, from some time on. A
source that has to be waited for without end shows in the requests that were made of it, so that nothing is such an answer.
-/

set_option autoImplicit false

namespace ShortLinks.Service

open Identifier (Draws Endless DrawError generate)

variable {σ α : Type} {s s' t : Service σ} {a b : Action ServiceError (Service σ) α} {r : Except ServiceError α}

def waiting (s : Service σ) (patience : Nat) : Service σ := s.withRandom (s.random.withPatience patience)

/-- The action ends like this and leaves this service if the source is waited for long enough. -/
def Returns (s : Service σ) (a : Action ServiceError (Service σ) α) (r : Except ServiceError α) (s' : Service σ) : Prop :=
  ∃ enough, ∀ patience ≥ enough, a.Ends (s.waiting patience) r (s'.waiting patience)

theorem returns_congr (n : Nat) (h : ∀ patience ≥ n,
    a.Ends (s.waiting patience) r (s'.waiting patience) ↔ b.Ends (t.waiting patience) r (s'.waiting patience)) :
    s.Returns a r s' ↔ t.Returns b r s' := by
  constructor
  · rintro ⟨enough, hends⟩
    refine ⟨max n enough, fun patience hpatience => ?_⟩
    obtain ⟨hn, henough⟩ := max_le_iff.mp hpatience
    exact (h patience hn).mp (hends patience henough)
  · rintro ⟨enough, hends⟩
    refine ⟨max n enough, fun patience hpatience => ?_⟩
    obtain ⟨hn, henough⟩ := max_le_iff.mp hpatience
    exact (h patience hn).mpr (hends patience henough)

theorem returns_of_ends (h : ∀ patience, a.Ends (s.waiting patience) r (s'.waiting patience)) : s.Returns a r s' :=
  ⟨0, fun patience _ => h patience⟩

theorem returns_emit_bind {event : Event} : s.Returns (Action.emit event >>= fun _ => a) r s' ↔ s.Returns a r s' :=
  returns_congr 0 fun _ _ => Action.ends_emit_bind

section Attempts

variable [Store σ] {store : σ} {owner target id : String} {n patience code : Nat} {after : Random}
  {r : Except ServiceError CreateOutcome}

theorem addFresh_returns_iff {r₀ : Except StoreError String}
    (hdrawn : generate s.shortIdLength (s.random.withPatience patience) = (.ok id, after))
    (hadd : (Store.add (Entry.create id target (some owner) none)).Ends s.pipeline.store r₀ store) :
    s.Returns (addFresh owner target (n + 1)) r s' ↔ ((s.withRandom after).withStore store).Returns
      (afterAdd owner target n (Entry.create id target (some owner) none) r₀) r s' := by
  refine returns_congr patience fun longer hlonger => ?_
  have hdraw : generate (s.waiting longer).shortIdLength (s.waiting longer).random = (.ok id, after.withPatience longer) :=
    Identifier.generate_withPatience (r := s.random.withPatience patience) hdrawn hlonger
  refine (addFresh_attempt (congrArg Prod.fst hdraw) hadd).trans ?_
  rw [hdraw]
  exact Iff.rfl

theorem addFresh_returns_failure
    (hfails : generate s.shortIdLength (s.random.withPatience patience) = (.error (.randomSource code), after)) :
    s.Returns (addFresh owner target (n + 1)) (.error (.noIdentifier (DrawError.randomSource code).message))
      (s.withRandom after) := by
  refine ⟨patience, fun longer hlonger => ?_⟩
  have hdraw : generate (s.waiting longer).shortIdLength (s.waiting longer).random =
      (.error (.randomSource code), after.withPatience longer) :=
    Identifier.generate_failure_withPatience (r := s.random.withPatience patience) hfails hlonger
  refine (addFresh_undrawn (congrArg Prod.fst hdraw)).mpr ⟨rfl, ?_⟩
  rw [hdraw]
  rfl

theorem not_addFresh_returns (h : Endless s.shortIdLength s.random) :
    ¬ s.Returns (addFresh owner target (n + 1)) r s' := by
  rintro ⟨enough, hends⟩
  -- as many requests have been made of the source as it was waited for, which no one service can have seen
  have hrequests : ∀ longer ≥ enough, s'.random.requests = s.random.requests + longer := by
    intro longer hlonger
    have hdraw := Endless.generate_eq (r := (s.waiting longer).random) fun k => ⟨(h k).gives, (h k).short⟩
    have hstate := ((addFresh_undrawn (congrArg Prod.fst hdraw)).mp (hends longer hlonger)).2
    rw [show generate (s.waiting longer).shortIdLength _ = _ from hdraw] at hstate
    exact congrArg (fun s => s.random.requests) hstate
  have hfirst := hrequests enough le_rfl
  have hnext := hrequests (enough + 1) (Nat.le_succ enough)
  omega

end Attempts

end ShortLinks.Service
