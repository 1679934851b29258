import ShortLinks.Action

/-!
# How actions end

`a.Ends w r w'` says that `a`, carried out on the state `w`, has the outcome `r` and leaves `w'`. Composed actions
end as their parts do, whatever events are noted on the way.
-/

set_option autoImplicit false

namespace ShortLinks.Action

variable {ε ε' ω σ α β : Type} {w w' w'' : ω} {x : α} {e : ε}

def Ends (a : Action ε ω α) (w : ω) (r : Except ε α) (w' : ω) : Prop := (a.run w).outcome = r ∧ (a.run w).state = w'

theorem ends_run (a : Action ε ω α) (w : ω) : a.Ends w (a.run w).outcome (a.run w).state := ⟨rfl, rfl⟩

theorem Ends.unique {a : Action ε ω α} {r r' : Except ε α} (h : a.Ends w r w') (h' : a.Ends w r' w'') :
    r = r' ∧ w' = w'' :=
  ⟨h.1.symm.trans h'.1, h.2.symm.trans h'.2⟩

theorem ends_pure {r : Except ε α} : (pure x : Action ε ω α).Ends w r w' ↔ r = .ok x ∧ w' = w := by
  rw [Ends, run_pure]
  exact and_congr eq_comm eq_comm

theorem ends_fail {r : Except ε α} : (fail e : Action ε ω α).Ends w r w' ↔ r = .error e ∧ w' = w := by
  rw [Ends, run_fail]
  exact and_congr eq_comm eq_comm

theorem ends_state {r : Except ε ω} : (state : Action ε ω ω).Ends w r w' ↔ r = .ok w ∧ w' = w := by
  rw [Ends, run_state]
  exact and_congr eq_comm eq_comm

theorem ends_set {r : Except ε Unit} : (set w'' : Action ε ω Unit).Ends w r w' ↔ r = .ok () ∧ w' = w'' := by
  rw [Ends, run_set]
  exact and_congr eq_comm eq_comm

theorem ends_modify {f : ω → ω} {r : Except ε Unit} :
    (modify f : Action ε ω Unit).Ends w r w' ↔ r = .ok () ∧ w' = f w := by
  rw [Ends, run_modify]
  exact and_congr eq_comm eq_comm

theorem ends_emit {event : Event} {r : Except ε Unit} :
    (emit event : Action ε ω Unit).Ends w r w' ↔ r = .ok () ∧ w' = w := by
  rw [Ends, run_emit]
  exact and_congr eq_comm eq_comm

theorem ends_emitAll {events : List Event} {r : Except ε Unit} :
    (emitAll events : Action ε ω Unit).Ends w r w' ↔ r = .ok () ∧ w' = w := by
  rw [Ends, run_emitAll]
  exact and_congr eq_comm eq_comm

theorem ends_bind {a : Action ε ω α} {f : α → Action ε ω β} {r : Except ε β} : (a >>= f).Ends w r w' ↔
    (∃ x w₁, a.Ends w (.ok x) w₁ ∧ (f x).Ends w₁ r w') ∨ ∃ e, a.Ends w (.error e) w' ∧ r = .error e := by
  unfold Ends
  rw [run_bind]
  generalize run a w = first
  obtain ⟨outcome, w₁, events⟩ := first
  cases outcome with
  | ok x =>
    constructor
    · intro h
      exact .inl ⟨x, w₁, ⟨rfl, rfl⟩, h⟩
    · rintro (⟨y, w₂, ⟨hx, rfl⟩, h⟩ | ⟨e, ⟨he, -⟩, -⟩)
      · cases hx
        exact h
      · cases he
  | error e =>
    constructor
    · rintro ⟨rfl, rfl⟩
      exact .inr ⟨e, ⟨rfl, rfl⟩, rfl⟩
    · rintro (⟨y, w₂, ⟨hx, -⟩, -⟩ | ⟨e', ⟨he, rfl⟩, rfl⟩)
      · cases hx
      · cases he
        exact ⟨rfl, rfl⟩

theorem ends_map {f : α → β} {a : Action ε ω α} {r : Except ε β} :
    (f <$> a).Ends w r w' ↔ ∃ r₀, a.Ends w r₀ w' ∧ r = r₀.map f := by
  unfold Ends
  rw [run_map]
  simp [eq_comm, and_comm]

theorem ends_mapError {f : ε → ε'} {a : Action ε ω α} {r : Except ε' α} :
    (mapError f a).Ends w r w' ↔ ∃ r₀, a.Ends w r₀ w' ∧ r = r₀.mapError f := by
  unfold Ends
  rw [run_mapError]
  simp [eq_comm, and_comm]

theorem ends_attempt {a : Action ε ω α} {r : Except ε' (Except ε α)} :
    (attempt a : Action ε' ω (Except ε α)).Ends w r w' ↔ ∃ r₀, a.Ends w r₀ w' ∧ r = .ok r₀ := by
  unfold Ends
  rw [run_attempt]
  simp [eq_comm, and_comm]

theorem ends_onPart {part : ω → σ} {replace : σ → ω → ω} {a : Action ε σ α} {r : Except ε α} :
    (onPart part replace a).Ends w r w' ↔ ∃ p, a.Ends (part w) r p ∧ w' = replace p w := by
  unfold Ends
  rw [run_onPart]
  constructor
  · rintro ⟨rfl, rfl⟩
    exact ⟨_, ⟨rfl, rfl⟩, rfl⟩
  · rintro ⟨p, ⟨rfl, rfl⟩, rfl⟩
    exact ⟨rfl, rfl⟩

theorem ends_bind_ok {a : Action ε ω α} {f : α → Action ε ω β} {y : β} :
    (a >>= f).Ends w (.ok y) w' ↔ ∃ x w₁, a.Ends w (.ok x) w₁ ∧ (f x).Ends w₁ (.ok y) w' := by
  rw [ends_bind]
  simp

theorem ends_mapError_ok {f : ε → ε'} {a : Action ε ω α} : (mapError f a).Ends w (.ok x) w' ↔ a.Ends w (.ok x) w' := by
  rw [ends_mapError]
  constructor
  · rintro ⟨r₀, h, heq⟩
    cases r₀ with
    | ok y =>
      cases heq
      exact h
    | error e => cases heq
  · intro h
    exact ⟨_, h, rfl⟩

theorem Ends.bind {a : Action ε ω α} {f : α → Action ε ω β} {r : Except ε β} (h : a.Ends w (.ok x) w')
    (hf : (f x).Ends w' r w'') : (a >>= f).Ends w r w'' :=
  ends_bind.mpr (.inl ⟨x, w', h, hf⟩)

/-- The jobs that an action notes as applied. -/
def applied (a : Action ε ω α) (w : ω) : List Deletion.Job :=
  (a.run w).events.filterMap fun
    | .jobApplied _ job => some job
    | _ => none

theorem applied_bind_ok {a : Action ε ω α} {f : α → Action ε ω β} (h : a.Ends w (.ok x) w') :
    (a >>= f).applied w = a.applied w ++ (f x).applied w' := by
  obtain ⟨houtcome, rfl⟩ := h
  unfold applied
  rw [run_bind, Effect.andThen, houtcome, ← List.filterMap_append]
  rfl

theorem applied_bind_error {a : Action ε ω α} {f : α → Action ε ω β} (h : a.Ends w (.error e) w') :
    (a >>= f).applied w = a.applied w := by
  unfold applied
  rw [run_bind, Effect.andThen, h.1]

theorem applied_state_bind (f : ω → Action ε ω β) (w : ω) : (state >>= f).applied w = (f w).applied w := rfl

theorem applied_map (f : α → β) (a : Action ε ω α) (w : ω) : (f <$> a).applied w = a.applied w := by
  unfold applied
  rw [run_map]

def Quiet (a : Action ε ω α) : Prop := ∀ w, a.applied w = []

theorem quiet_of_silent {a : Action ε ω α} (h : ∀ w, (a.run w).events = []) : a.Quiet := by
  intro w
  unfold applied
  rw [h]
  rfl

theorem quiet_pure (x : α) : (pure x : Action ε ω α).Quiet := fun _ => rfl

theorem quiet_fail (e : ε) : (fail e : Action ε ω α).Quiet := fun _ => rfl

theorem quiet_state : (state : Action ε ω ω).Quiet := fun _ => rfl

theorem quiet_modify (f : ω → ω) : (modify f : Action ε ω Unit).Quiet := fun _ => rfl

namespace Quiet

variable {a : Action ε ω α}

theorem applied_bind {f : α → Action ε ω β} (hf : ∀ x, (f x).Quiet) (w : ω) : (a >>= f).applied w = a.applied w := by
  cases houtcome : (a.run w).outcome with
  | ok x => rw [applied_bind_ok ⟨houtcome, rfl⟩, hf, List.append_nil]
  | error e => rw [applied_bind_error ⟨houtcome, rfl⟩]

theorem bind {f : α → Action ε ω β} (ha : a.Quiet) (hf : ∀ x, (f x).Quiet) : (a >>= f).Quiet :=
  fun w => (applied_bind hf w).trans (ha w)

theorem map (ha : a.Quiet) (f : α → β) : (f <$> a).Quiet := fun w => (applied_map f a w).trans (ha w)

theorem mapError (ha : a.Quiet) (f : ε → ε') : (mapError f a).Quiet := ha

theorem attempt (ha : a.Quiet) : (attempt a : Action ε' ω (Except ε α)).Quiet := ha

theorem onPart {a : Action ε σ α} (ha : a.Quiet) (part : ω → σ) (replace : σ → ω → ω) :
    (onPart part replace a).Quiet :=
  fun w => ha (part w)

end Quiet

theorem each_append {ι : Type} (act : ι → Action ε ω α) (first rest : List ι) (w : ω) :
    each act (first ++ rest) w = ((each act first w).1 ++ (each act rest (each act first w).2).1,
      (each act rest (each act first w).2).2) := by
  induction first generalizing w with
  | nil => rfl
  | cons i first ih =>
    rw [List.cons_append, each, ih]
    rfl

def Maintains (P : ω → Prop) (a : Action ε ω α) : Prop := ∀ w, P w → P (a.run w).state

theorem maintains_of_state_eq {P : ω → Prop} {a : Action ε ω α} (h : ∀ w, P w → (a.run w).state = w) : a.Maintains P := by
  intro w hw
  rw [h w hw]
  exact hw

theorem maintains_pure (P : ω → Prop) (x : α) : (pure x : Action ε ω α).Maintains P := fun _ hw => hw

theorem maintains_fail (P : ω → Prop) (e : ε) : (fail e : Action ε ω α).Maintains P := fun _ hw => hw

namespace Maintains

variable {P : ω → Prop} {a : Action ε ω α}

theorem bind {f : α → Action ε ω β} (ha : a.Maintains P) (hf : ∀ x, (f x).Maintains P) : (a >>= f).Maintains P := by
  intro w hw
  rcases ends_bind.mp (ends_run (a >>= f) w) with ⟨x, w₁, ⟨-, rfl⟩, -, hrest⟩ | ⟨e, ⟨-, hfirst⟩, -⟩
  · exact hrest ▸ hf x _ (ha w hw)
  · exact hfirst ▸ ha w hw

theorem map (ha : a.Maintains P) (f : α → β) : (f <$> a).Maintains P := by
  intro w hw
  rw [run_map]
  exact ha w hw

theorem mapError (ha : a.Maintains P) (f : ε → ε') : (mapError f a).Maintains P := ha

end Maintains

theorem Ends.bind_iff {a : Action ε ω α} {f : α → Action ε ω β} {r : Except ε β} (h : a.Ends w (.ok x) w') :
    (a >>= f).Ends w r w'' ↔ (f x).Ends w' r w'' := by
  refine ⟨fun hends => ?_, h.bind⟩
  rcases ends_bind.mp hends with ⟨y, w₁, hfirst, hrest⟩ | ⟨e, hfirst, -⟩
  · obtain ⟨heq, rfl⟩ := h.unique hfirst
    cases heq
    exact hrest
  · cases (h.unique hfirst).1

theorem Ends.bind_error_iff {a : Action ε ω α} {f : α → Action ε ω β} {r : Except ε β} (h : a.Ends w (.error e) w') :
    (a >>= f).Ends w r w'' ↔ r = .error e ∧ w'' = w' := by
  constructor
  · intro hends
    rcases ends_bind.mp hends with ⟨y, w₁, hfirst, -⟩ | ⟨e', hfirst, rfl⟩
    · cases (h.unique hfirst).1
    · obtain ⟨heq, rfl⟩ := h.unique hfirst
      cases heq
      exact ⟨rfl, rfl⟩
  · rintro ⟨rfl, rfl⟩
    exact ends_bind.mpr (.inr ⟨e, h, rfl⟩)

theorem ends_state_bind {f : ω → Action ε ω β} {r : Except ε β} : (state >>= f).Ends w r w' ↔ (f w).Ends w r w' :=
  (ends_state.mpr ⟨rfl, rfl⟩).bind_iff

theorem ends_set_bind {f : Unit → Action ε ω β} {r : Except ε β} :
    (set w'' >>= f).Ends w r w' ↔ (f ()).Ends w'' r w' :=
  (ends_set.mpr ⟨rfl, rfl⟩).bind_iff

theorem ends_emit_bind {event : Event} {f : Unit → Action ε ω β} {r : Except ε β} :
    (emit event >>= f).Ends w r w' ↔ (f ()).Ends w r w' :=
  (ends_emit.mpr ⟨rfl, rfl⟩).bind_iff

theorem ends_emitAll_bind {events : List Event} {f : Unit → Action ε ω β} {r : Except ε β} :
    (emitAll events >>= f).Ends w r w' ↔ (f ()).Ends w r w' :=
  (ends_emitAll.mpr ⟨rfl, rfl⟩).bind_iff

theorem ends_attempt_bind {a : Action ε ω α} {f : Except ε α → Action ε' ω β} {r : Except ε' β} :
    (attempt a >>= f).Ends w r w' ↔ ∃ r₀ w₁, a.Ends w r₀ w₁ ∧ (f r₀).Ends w₁ r w' := by
  constructor
  · intro h
    exact ⟨_, _, ends_run a w, (ends_attempt.mpr ⟨_, ends_run a w, rfl⟩).bind_iff.mp h⟩
  · rintro ⟨r₀, w₁, hfirst, hrest⟩
    exact (ends_attempt.mpr ⟨r₀, hfirst, rfl⟩).bind hrest

end ShortLinks.Action
