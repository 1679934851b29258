import ShortLinks.Event

/-!
# Actions

An action on a state has an outcome, leaves a state and notes events, in the order in which they happen. A
failure ends it, but what was changed and noted before stays.
-/

set_option autoImplicit false

namespace ShortLinks

structure Effect (ε ω α : Type) where
  outcome : Except ε α
  state : ω
  events : List Event

/-- An action on states `ω` that gives an `α` or fails with an `ε`. -/
def Action (ε ω α : Type) : Type := ω → Effect ε ω α

/-- What happens after a first effect: its events come first, and nothing more does if it failed. -/
def Effect.andThen {ε ω α β : Type} (r : Effect ε ω α) (f : α → Action ε ω β) : Effect ε ω β :=
  match r.outcome with
  | .ok x => let next := f x r.state; { next with events := r.events ++ next.events }
  | .error e => ⟨.error e, r.state, r.events⟩

namespace Action

variable {ε ε' ω σ α β : Type}

def run (a : Action ε ω α) (w : ω) : Effect ε ω α := a w

instance : Monad (Action ε ω) where
  pure x := fun w => ⟨.ok x, w, []⟩
  bind a f := fun w => (a w).andThen f

def fail (e : ε) : Action ε ω α := fun w => ⟨.error e, w, []⟩

def ofExcept : Except ε α → Action ε ω α
  | .ok x => pure x
  | .error e => fail e

def state : Action ε ω ω := fun w => ⟨.ok w, w, []⟩

def set (w : ω) : Action ε ω Unit := fun _ => ⟨.ok (), w, []⟩

def modify (f : ω → ω) : Action ε ω Unit := fun w => ⟨.ok (), f w, []⟩

def emit (event : Event) : Action ε ω Unit := fun w => ⟨.ok (), w, [event]⟩

def emitAll (events : List Event) : Action ε ω Unit := fun w => ⟨.ok (), w, events⟩

def attempt (a : Action ε ω α) : Action ε' ω (Except ε α) := fun w =>
  let r := a w
  ⟨.ok r.outcome, r.state, r.events⟩

def mapError (f : ε → ε') (a : Action ε ω α) : Action ε' ω α := fun w =>
  let r := a w
  ⟨r.outcome.mapError f, r.state, r.events⟩

def onPart (part : ω → σ) (replace : σ → ω → ω) (a : Action ε σ α) : Action ε ω α := fun w =>
  let r := a (part w)
  ⟨r.outcome, replace r.state w, r.events⟩

def each {ι : Type} (act : ι → Action ε ω α) : List ι → ω → List (Except ε α) × ω
  | [], w => ([], w)
  | i :: rest, w =>
    let r := (act i).run w
    let (outcomes, after) := each act rest r.state
    (r.outcome :: outcomes, after)

section Lemmas

theorem andThen_pure (r : Effect ε ω α) : r.andThen (fun x => (pure x : Action ε ω α)) = r := by
  obtain ⟨outcome, w, events⟩ := r
  cases outcome
  · rfl
  · show Effect.mk _ _ (events ++ []) = _
    rw [List.append_nil]
    rfl

theorem andThen_andThen (r : Effect ε ω α) (f : α → Action ε ω β) (g : β → Action ε ω σ) :
    (r.andThen f).andThen g = r.andThen fun x => f x >>= g := by
  obtain ⟨outcome, w, events⟩ := r
  cases outcome with
  | error e => rfl
  | ok x =>
    show Effect.andThen ⟨(f x w).outcome, (f x w).state, events ++ (f x w).events⟩ g =
      ⟨((f x w).andThen g).outcome, ((f x w).andThen g).state, events ++ ((f x w).andThen g).events⟩
    generalize f x w = r
    obtain ⟨outcome, w', events'⟩ := r
    cases outcome with
    | error e => rfl
    | ok y => simp [Effect.andThen, List.append_assoc]

instance : LawfulMonad (Action ε ω) :=
  LawfulMonad.mk' _ (fun a => funext fun w => andThen_pure (a w))
    (fun f x => funext fun w => by
      show Effect.mk _ _ ([] ++ _) = _
      rw [List.nil_append]
      rfl)
    (fun a f g => funext fun w => andThen_andThen (a w) f g)

@[simp] theorem run_pure (x : α) (w : ω) : run (pure x : Action ε ω α) w = ⟨.ok x, w, []⟩ := rfl

@[simp] theorem run_bind (a : Action ε ω α) (f : α → Action ε ω β) (w : ω) :
    run (a >>= f) w = (run a w).andThen f := rfl

@[simp] theorem run_fail (e : ε) (w : ω) : run (fail e : Action ε ω α) w = ⟨.error e, w, []⟩ := rfl

@[simp] theorem run_emit (event : Event) (w : ω) : run (emit event : Action ε ω Unit) w = ⟨.ok (), w, [event]⟩ := rfl

@[simp] theorem run_state (w : ω) : run (state : Action ε ω ω) w = ⟨.ok w, w, []⟩ := rfl

@[simp] theorem run_set (w w' : ω) : run (set w' : Action ε ω Unit) w = ⟨.ok (), w', []⟩ := rfl

@[simp] theorem run_modify (f : ω → ω) (w : ω) : run (modify f : Action ε ω Unit) w = ⟨.ok (), f w, []⟩ := rfl

@[simp] theorem run_emitAll (events : List Event) (w : ω) :
    run (emitAll events : Action ε ω Unit) w = ⟨.ok (), w, events⟩ := rfl

@[simp] theorem run_mapError (f : ε → ε') (a : Action ε ω α) (w : ω) :
    run (mapError f a) w = ⟨(run a w).outcome.mapError f, (run a w).state, (run a w).events⟩ := rfl

theorem run_map (f : α → β) (a : Action ε ω α) (w : ω) :
    run (f <$> a) w = ⟨(run a w).outcome.map f, (run a w).state, (run a w).events⟩ := by
  show (run a w).andThen (fun x => pure (f x)) = _
  generalize run a w = r
  obtain ⟨outcome, w', events⟩ := r
  cases outcome with
  | error e => rfl
  | ok x =>
    show Effect.mk _ _ (events ++ []) = _
    rw [List.append_nil]
    rfl

@[simp] theorem run_attempt (a : Action ε ω α) (w : ω) :
    run (attempt a : Action ε' ω (Except ε α)) w = ⟨.ok (run a w).outcome, (run a w).state, (run a w).events⟩ := rfl

@[simp] theorem run_onPart (part : ω → σ) (replace : σ → ω → ω) (a : Action ε σ α) (w : ω) :
    run (onPart part replace a) w =
      ⟨(run a (part w)).outcome, replace (run a (part w)).state w, (run a (part w)).events⟩ := rfl

theorem each_invariant {ι : Type} {act : ι → Action ε ω α} {P : ω → Prop}
    (hstep : ∀ i w, P w → P ((act i).run w).state) (is : List ι) {w : ω} (hw : P w) : P (each act is w).2 := by
  induction is generalizing w with
  | nil => exact hw
  | cons i is ih => exact ih (hstep i w hw)

end Lemmas

end Action
end ShortLinks
