/-!
# Outcomes

A composed computation succeeds if its parts do.
-/

set_option autoImplicit false

namespace ShortLinks

variable {ε α β : Type} {x : Except ε α} {b : β}

theorem bind_eq_ok {f : α → Except ε β} : x.bind f = .ok b ↔ ∃ a, x = .ok a ∧ f a = .ok b := by
  cases x <;> simp [Except.bind]

theorem map_eq_ok {f : α → β} : x.map f = .ok b ↔ ∃ a, x = .ok a ∧ f a = b := by
  cases x <;> simp [Except.map]

theorem map_eq_error {f : α → β} {e : ε} : x.map f = .error e ↔ x = .error e := by
  cases x <;> simp [Except.map]

theorem map_inj {f : α → β} (hf : ∀ a a', f a = f a' → a = a') {x y : Except ε α} (h : x.map f = y.map f) : x = y := by
  cases x with
  | ok a =>
    obtain ⟨a', rfl, ha⟩ := map_eq_ok.mp h.symm
    rw [hf a a' ha.symm]
  | error e => exact (map_eq_error.mp h.symm).symm

end ShortLinks
