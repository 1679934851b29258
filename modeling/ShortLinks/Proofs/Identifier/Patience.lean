import ShortLinks.Proofs.Identifier.Stream
import ShortLinks.Proofs.Service.Attempts

/-!
# Waiting for a source

How long a source is waited for only decides whether it is given up. What is drawn from it, and what fails, is the same
if it is waited for longer; and unless it is given up however long it is waited for, waiting long enough ends a draw.
-/

set_option autoImplicit false

namespace ShortLinks

def Random.withPatience (r : Random) (patience : Nat) : Random := { r with patience }

namespace Identifier

variable {length code patience : Nat} {r between after : Random} {id : String} {draws : List String}

theorem patience_generate (h : generate length r = (.ok id, after)) : after.patience = r.patience := by
  obtain ⟨k, -, -, -, rfl⟩ := generate_eq_ok_iff.mp h
  rfl

theorem generate_withPatience (h : generate length r = (.ok id, after)) (hpatience : r.patience ≤ patience) :
    generate length (r.withPatience patience) = (.ok id, after.withPatience patience) := by
  obtain ⟨k, hk, hsuffices, rfl, rfl⟩ := generate_eq_ok_iff.mp h
  exact generate_of_suffices ⟨hsuffices.gives, hsuffices.enough, hsuffices.least⟩ (hk.trans hpatience)

theorem generate_failure_withPatience (h : generate length r = (.error (.randomSource code), after))
    (hpatience : r.patience ≤ patience) :
    generate length (r.withPatience patience) = (.error (.randomSource code), after.withPatience patience) := by
  obtain ⟨k, hk, hfails, rfl⟩ := generate_eq_failure_iff.mp h
  exact generate_of_breaksOff ⟨⟨hfails.gives, hfails.short⟩, hfails.fails⟩ (hk.trans_le hpatience)

namespace Draws

theorem patience_eq (h : Draws (generate length) r draws after) : after.patience = r.patience := by
  induction h with
  | nil => rfl
  | cons hx _ ih => exact ih.trans (patience_generate (Prod.ext hx rfl))

theorem withPatience (h : Draws (generate length) r draws after) (hpatience : r.patience ≤ patience) :
    Draws (generate length) (r.withPatience patience) draws (after.withPatience patience) := by
  induction h with
  | nil r => exact .nil _
  | @cons r r' id draws hx hrest ih =>
    have hdraw := generate_withPatience (Prod.ext hx rfl) hpatience
    have hsame : (generate length r).2.patience = r.patience := patience_generate (Prod.ext hx rfl)
    refine .cons (congrArg Prod.fst hdraw) ?_
    rw [hdraw]
    exact ih (hsame.trans_le hpatience)

theorem concat_iff : Draws (generate length) r (draws ++ [id]) after ↔
    ∃ between, Draws (generate length) r draws between ∧ generate length between = (.ok id, after) := by
  rw [append_iff]
  refine exists_congr fun between => and_congr_right fun _ => single_iff.trans ?_
  constructor
  · rintro ⟨hid, hafter⟩
    exact Prod.ext hid hafter
  · intro h
    rw [h]
    exact ⟨rfl, rfl⟩

end Draws

/-- No number of requests completes an identifier, and none of them fails. -/
def Endless (length : Nat) (r : Random) : Prop := ∀ k, RunsShort length r k

theorem Endless.generate_eq (h : Endless length r) :
    generate length r = (.error .outOfPatience, r.advance r.patience) :=
  generate_of_patience (h r.patience)

theorem endless_or_ends (length : Nat) (r : Random) : Endless length r ∨ ∃ patience,
    (∃ id after, generate length (r.withPatience patience) = (.ok id, after)) ∨
      ∃ code after, generate length (r.withPatience patience) = (.error (.randomSource code), after) := by
  by_cases hendless : Endless length r
  · exact .inl hendless
  · obtain ⟨n, hn⟩ := not_forall.mp hendless
    rcases runsShort_or_ends length r n with hshort | ⟨k, -, hsuffices⟩ | ⟨k, -, code, hfails⟩
    · exact absurd hshort hn
    · have hends : Suffices length (r.withPatience k) k := ⟨hsuffices.gives, hsuffices.enough, hsuffices.least⟩
      exact .inr ⟨k, .inl ⟨_, _, generate_of_suffices hends le_rfl⟩⟩
    · have hends : BreaksOff length (r.withPatience (k + 1)) k code := ⟨⟨hfails.gives, hfails.short⟩, hfails.fails⟩
      exact .inr ⟨k + 1, .inr ⟨_, _, generate_of_breaksOff hends (Nat.lt_succ_self k)⟩⟩

end Identifier
end ShortLinks
