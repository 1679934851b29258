import ShortLinks.Proofs.Store.File
import ShortLinks.Proofs.Store.Memory

/-!
# The file store simulates the memory store

The two stores keep nothing alike: the one a text that every call reads anew, the other two maps. Where they have the
same contents, every call is answered the same by both and leaves the same contents; compacting the log or opening
it again at any time makes no difference.
-/

set_option autoImplicit false

namespace ShortLinks

namespace FileStore

def FailsOnDisk {ω α : Type} (a : Action StoreError ω α) : Prop :=
  ∀ w e w', a.Ends w (.error e) w' → ∃ cause, e = .io cause

variable {ω α β : Type} {s s' : FileStore}

theorem FailsOnDisk.bind {a : Action StoreError ω α} {f : α → Action StoreError ω β} (ha : FailsOnDisk a)
    (hf : ∀ x, FailsOnDisk (f x)) : FailsOnDisk (a >>= f) := by
  intro w e w' h
  rcases Action.ends_bind.mp h with ⟨x, w₁, -, h⟩ | ⟨e', h, heq⟩
  · exact hf x w₁ e w' h
  · cases heq
    exact ha w e w' h

theorem failsOnDisk_mapError (a : Action IoError ω α) : FailsOnDisk (Action.mapError StoreError.io a) := by
  intro w e w' h
  obtain ⟨r₀, -, heq⟩ := Action.ends_mapError.mp h
  cases r₀ with
  | ok x => cases heq
  | error cause =>
    cases heq
    exact ⟨cause, rfl⟩

theorem failsOnDisk_pure (x : α) : FailsOnDisk (pure x : Action StoreError ω α) := by
  intro w e w' h
  cases (Action.ends_pure.mp h).1

theorem failsOnDisk_emit (event : Event) : FailsOnDisk (Action.emit event : Action StoreError ω Unit) := by
  intro w e w' h
  cases (Action.ends_emit.mp h).1

theorem failsOnDisk_readLog (path : String) : FailsOnDisk (readLog path) := by
  refine FailsOnDisk.bind ?_ ?_
  · intro w e w' h
    obtain ⟨r₀, -, heq⟩ := Action.ends_attempt.mp h
    cases heq
  · intro outcome
    cases outcome with
    | error cause =>
      dsimp only
      split
      · exact failsOnDisk_pure _
      · intro w e w' h
        cases (Action.ends_fail.mp h).1
        exact ⟨cause, rfl⟩
    | ok content =>
      refine FailsOnDisk.bind ?_ fun _ => failsOnDisk_pure _
      intro w e w' h
      cases (Action.ends_emitAll.mp h).1

theorem failsOnDisk_compactLog (path : String) : FailsOnDisk (compactLog path) := by
  refine (failsOnDisk_readLog path).bind fun log => ?_
  refine (failsOnDisk_mapError _).bind fun _ => ?_
  refine (failsOnDisk_mapError _).bind fun _ => ?_
  refine (failsOnDisk_mapError _).bind fun n => ?_
  exact (failsOnDisk_emit _).bind fun _ => failsOnDisk_pure n

theorem failsOnDisk_openLog (path : String) : FailsOnDisk (openLog path) :=
  (failsOnDisk_mapError _).bind fun _ => failsOnDisk_compactLog path

theorem FailsOnDisk.relog {f : String → Action StoreError Disk Nat} (hf : ∀ path, FailsOnDisk (f path)) :
    FailsOnDisk (do let s ← Action.state; let log ← onDisk (f s.path); Action.modify fun s => { s with log } :
      Action StoreError FileStore Unit) := by
  refine FailsOnDisk.bind ?_ fun s => FailsOnDisk.bind ?_ fun log => ?_
  · intro w e w' h
    cases (Action.ends_state.mp h).1
  · intro w e w' h
    obtain ⟨d', h, -⟩ := Action.ends_onPart.mp h
    exact hf s.path _ e d' h
  · intro w e w' h
    cases (Action.ends_modify.mp h).1

theorem Ready.stepped (h : s.Ready) (call : Call) (hio : ∀ cause, (call.perform.run s).outcome ≠ .error (.io cause)) :
    s.Stepped call (call.perform.run s).outcome (call.perform.run s).state := by
  refine (perform_cases h (Action.ends_run _ _)).resolve_left ?_
  rintro ⟨-, cause, hfault⟩
  exact hio cause hfault

theorem rewritten_of_ne_io {a : Action StoreError FileStore Unit} (hfails : FailsOnDisk a)
    (hends : ∀ s', a.Ends s (.ok ()) s' → Rewritten s.path s.disk s')
    (hio : ∀ cause, (((fun _ => .done : Unit → Reply) <$> a).run s).outcome ≠ .error (.io cause)) :
    (((fun _ => .done : Unit → Reply) <$> a).run s).outcome = .ok .done ∧
      Rewritten s.path s.disk (((fun _ => .done : Unit → Reply) <$> a).run s).state := by
  rw [Action.run_map] at hio ⊢
  cases houtcome : (a.run s).outcome with
  | ok done => exact ⟨rfl, hends _ ⟨houtcome, rfl⟩⟩
  | error e =>
    obtain ⟨cause, rfl⟩ := hfails s e _ ⟨houtcome, rfl⟩
    dsimp only at hio
    rw [houtcome] at hio
    exact absurd rfl (hio cause)

end FileStore

/-- What a file store is asked to do: a call, or to write its log anew. -/
inductive Move where
  | call (call : Call)
  | compact
  | reopen

namespace Move

def onFile : Move → Action StoreError FileStore Reply
  | .call c => c.perform
  | .compact => (fun _ => .done) <$> FileStore.compact
  | .reopen => (fun _ => .done) <$> FileStore.reopen

/-- The memory store has nothing to write anew. -/
def onMemory : Move → Action StoreError MemoryStore Reply
  | .call c => c.perform
  | .compact | .reopen => pure .done

end Move

namespace FileStore

variable {s : FileStore}

theorem compact_of_ne_io (hio : ∀ cause, (Move.compact.onFile.run s).outcome ≠ .error (.io cause)) :
    (Move.compact.onFile.run s).outcome = .ok .done ∧ Rewritten s.path s.disk (Move.compact.onFile.run s).state :=
  rewritten_of_ne_io (.relog failsOnDisk_compactLog) (fun _ => compact_ends) hio

theorem reopen_of_ne_io (hio : ∀ cause, (Move.reopen.onFile.run s).outcome ≠ .error (.io cause)) :
    (Move.reopen.onFile.run s).outcome = .ok .done ∧ Rewritten s.path s.disk (Move.reopen.onFile.run s).state :=
  rewritten_of_ne_io (.relog failsOnDisk_openLog) (fun _ hends => (reopen_ends hends).rewritten) hio

end FileStore

structure Agree (s : FileStore) (m : MemoryStore) : Prop where
  ready : s.Ready
  consistent : m.Consistent
  contents : s.contents = m.contents

namespace Agree

variable {s s' : FileStore} {m : MemoryStore} {path : String} {d : Disk}

theorem call (h : Agree s m) (call : Call) (hio : ∀ cause, (call.perform.run s).outcome ≠ .error (.io cause)) :
    (call.perform.run s).outcome = (call.perform.run m).outcome ∧
      Agree (call.perform.run s).state (call.perform.run m).state := by
  have hfile := h.ready.stepped call hio
  obtain ⟨hconsistent, hmemory⟩ := MemoryStore.perform_step h.consistent call
  have hstep := hfile.step
  rw [h.contents] at hstep
  obtain ⟨houtcome, hcontents⟩ := hstep.unique h.consistent.oneLive hmemory
  exact ⟨houtcome, hfile.ready, hconsistent, hcontents⟩

theorem rewritten (h : Agree s m) (hs : FileStore.Rewritten s.path s.disk s') : Agree s' m :=
  ⟨hs.ready, h.consistent, (hs.contents_eq h.ready).trans h.contents⟩

theorem move (h : Agree s m) (move : Move) (hio : ∀ cause, (move.onFile.run s).outcome ≠ .error (.io cause)) :
    (move.onFile.run s).outcome = (move.onMemory.run m).outcome ∧
      Agree (move.onFile.run s).state (move.onMemory.run m).state := by
  cases move with
  | call call => exact h.call call hio
  | compact => exact (FileStore.compact_of_ne_io hio).imp_right h.rewritten
  | reopen => exact (FileStore.reopen_of_ne_io hio).imp_right h.rewritten

theorem moves (h : Agree s m) (moves : List Move)
    (hio : ∀ cause, .error (.io cause) ∉ (Action.each Move.onFile moves s).1) :
    (Action.each Move.onFile moves s).1 = (Action.each Move.onMemory moves m).1 := by
  induction moves generalizing s m with
  | nil => rfl
  | cons move moves ih =>
    obtain ⟨houtcome, hagree⟩ := h.move move fun cause heq => hio cause (heq ▸ List.mem_cons_self)
    have hrest := ih hagree fun cause hmem => hio cause (List.mem_cons_of_mem _ hmem)
    show _ :: (Action.each Move.onFile moves (move.onFile.run s).state).1 = _
    rw [hrest, houtcome]
    rfl

theorem opened (h : FileStore.Opens path d s) (hfresh : d.content? path = none ∨ d.content? path = some []) :
    Agree s MemoryStore.empty := by
  have hcontent : (d.content? path).getD [] = [] := by
    rcases hfresh with hnone | hempty
    · rw [hnone]
      rfl
    · rw [hempty]
      rfl
  refine ⟨h.rewritten.ready, MemoryStore.empty_consistent, ?_⟩
  unfold FileStore.contents
  rw [h.rewritten.logOf_eq, hcontent, Log.get?_ofBytes_toBytes, MemoryStore.contents_empty]
  exact funext Log.get?_empty

end Agree

theorem Contents.Step.ne_io {c c' : Contents} {call : Call} {r : Except StoreError Reply} (h : c.Step call r c')
    (cause : IoError) : r ≠ .error (.io cause) := by
  rintro rfl
  cases h

namespace FileStore

variable {s : FileStore} {path : String} {d : Disk}

theorem Ready.move_of_steady (h : s.Ready) (hd : s.disk.Steady) (move : Move) :
    (∀ cause, (move.onFile.run s).outcome ≠ .error (.io cause)) ∧
      (move.onFile.run s).state.Ready ∧ (move.onFile.run s).state.disk.Steady := by
  have hrewrite : ∀ (a : Action StoreError FileStore Unit) (s' : FileStore), a.Ends s (.ok ()) s' →
      Rewritten s.path s.disk s' → (∀ cause, (((fun _ => .done : Unit → Reply) <$> a).run s).outcome ≠ .error (.io cause)) ∧
        (((fun _ => .done : Unit → Reply) <$> a).run s).state.Ready ∧
          (((fun _ => .done : Unit → Reply) <$> a).run s).state.disk.Steady := by
    rintro a s' ⟨houtcome, rfl⟩ hs'
    rw [Action.run_map]
    dsimp only
    rw [houtcome]
    exact ⟨fun cause => nofun, hs'.ready, hs'.later.steady hd⟩
  cases move with
  | call call =>
    have hstep := perform_of_steady call h hd
    exact ⟨hstep.step.ne_io, hstep.ready, hstep.later.steady hd⟩
  | compact =>
    obtain ⟨s', hs'⟩ := compact_of_steady h hd
    exact hrewrite compact s' hs' (compact_ends hs')
  | reopen =>
    obtain ⟨s', hs'⟩ := reopen_of_steady h hd
    exact hrewrite reopen s' hs' (reopen_ends hs').rewritten

theorem Ready.moves_of_steady (h : s.Ready) (hd : s.disk.Steady) (moves : List Move) (cause : IoError) :
    .error (.io cause) ∉ (Action.each Move.onFile moves s).1 := by
  induction moves generalizing s with
  | nil => exact List.not_mem_nil
  | cons move moves ih =>
    obtain ⟨hio, hready, hsteady⟩ := h.move_of_steady hd move
    intro hmem
    rcases List.mem_cons.mp hmem with heq | hmem
    · exact hio cause heq.symm
    · exact ih hready hsteady hmem

end FileStore

/-- A file store that was opened on a missing or an empty file answers every call as the memory store does that was
empty at first, wherever between the calls its log is written anew, as long as the disk does not fail. -/
theorem outcomes_eq_of_fresh {path : String} {d : Disk} {s : FileStore} (h : FileStore.Opens path d s)
    (hfresh : d.content? path = none ∨ d.content? path = some []) (moves : List Move)
    (hio : ∀ cause, .error (.io cause) ∉ (Action.each Move.onFile moves s).1) :
    (Action.each Move.onFile moves s).1 = (Action.each Move.onMemory moves MemoryStore.empty).1 :=
  (Agree.opened h hfresh).moves moves hio

theorem blank_opens : ∃ s, FileStore.Opens "log" (Disk.blank []) s :=
  FileStore.exists_opens ⟨["log"], by decide, by decide⟩ ⟨["log.compact"], by decide, by decide⟩ (fun _ h => by cases h)

theorem blank_outcomes_eq : ∃ s, FileStore.Opens "log" (Disk.blank []) s ∧
    (Action.each Move.onFile [.call (.add (Entry.create "a" "t" (some "u") none)), .compact,
      .call (.softDelete "u" ["a"]), .reopen, .call (.allByOwner "u")] s).1 =
    (Action.each Move.onMemory [.call (.add (Entry.create "a" "t" (some "u") none)), .compact,
      .call (.softDelete "u" ["a"]), .reopen, .call (.allByOwner "u")] MemoryStore.empty).1 := by
  obtain ⟨s, hs⟩ := blank_opens
  have hmissing : (Disk.blank []).content? "log" = none := by decide
  have hsteady : s.disk.Steady := hs.rewritten.later.steady fun _ h => by cases h
  exact ⟨s, hs, outcomes_eq_of_fresh hs (.inl hmissing) _ (hs.rewritten.ready.moves_of_steady hsteady _)⟩

end ShortLinks
