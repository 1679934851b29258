import ShortLinks.Proofs.Store.Compaction
import ShortLinks.Proofs.Store.History
import ShortLinks.Proofs.Store.Simulation

/-!
# Entries are permanent

An entry that a store has once answered with is answered with ever after. Its id, target, owner and token stay what
they were, and once it is deleted it stays deleted.
-/

set_option autoImplicit false

namespace ShortLinks

structure Entry.Becomes (e later : Entry) : Prop where
  id_eq : later.id = e.id
  target_eq : later.target = e.target
  owner_eq : later.owner = e.owner
  correlation_eq : later.correlation = e.correlation
  deleted : e.deleted = true → later.deleted = true

theorem Contents.Persists.becomes {c c' : Contents} {id : String} {e : Entry} (h : c.Persists c') (he : c id = some e) :
    ∃ later, c' id = some later ∧ e.Becomes later := by
  rcases h id e he with hsame | hmarked
  · exact ⟨e, hsame, rfl, rfl, rfl, rfl, fun hdel => hdel⟩
  · exact ⟨e.markDeleted, hmarked, rfl, rfl, rfl, rfl, fun _ => rfl⟩

variable {σ ι : Type} [Store σ]

/-- What is found under an id after some steps is found there after any further ones, as what it may have become. -/
def Remembers (act : ι → Action StoreError σ Reply) (s : σ) (before between : List ι) : Prop :=
  ∀ id e, ((Store.getById id).run (Action.each act before s).2).outcome = .ok (some e) →
    ∃ later, ((Store.getById id).run (Action.each act (before ++ between) s).2).outcome = .ok (some later) ∧
      e.Becomes later

/-- Where looking up answers what the contents say, it is enough that these persist. -/
theorem remembers_of_persists {act : ι → Action StoreError σ Reply} {s : σ} {before between : List ι} {c c' : Contents}
    (hbefore : ∀ id, ((Store.getById id).run (Action.each act before s).2).outcome = .ok (c id))
    (hafter : ∀ id, ((Store.getById id).run (Action.each act (before ++ between) s).2).outcome = .ok (c' id))
    (h : c.Persists c') : Remembers act s before between := by
  intro id e he
  rw [hbefore, Except.ok.injEq] at he
  obtain ⟨later, hlater, hbecomes⟩ := h.becomes he
  exact ⟨later, (hafter id).trans (congrArg Except.ok hlater), hbecomes⟩

theorem MemoryStore.Consistent.persists_calls {s : MemoryStore} (h : s.Consistent) (calls : List Call) :
    s.contents.Persists (Action.each Call.perform calls s).2.contents := by
  induction calls generalizing s with
  | nil => exact .refl _
  | cons call calls ih =>
    obtain ⟨hconsistent, hstep⟩ := perform_step h call
    exact (Contents.Persists.step hstep).trans (ih hconsistent)

theorem MemoryStore.remembers (before between : List Call) : Remembers Call.perform empty before between := by
  refine remembers_of_persists (fun id => rfl) (fun id => rfl) ?_
  rw [Action.each_append]
  exact (each_consistent before).persists_calls between

namespace FileStore

variable {s : FileStore}

theorem Ready.persists_move (h : s.Ready) (move : Move) (hio : ∀ cause, (move.onFile.run s).outcome ≠ .error (.io cause)) :
    (move.onFile.run s).state.Ready ∧ s.contents.Persists (move.onFile.run s).state.contents := by
  have hrewritten : ∀ {s' : FileStore}, Rewritten s.path s.disk s' → s'.Ready ∧ s.contents.Persists s'.contents := by
    intro s' hs'
    rw [hs'.contents_eq h]
    exact ⟨hs'.ready, .refl _⟩
  cases move with
  | call call =>
    have hstepped := h.stepped call hio
    exact ⟨hstepped.ready, .step hstepped.step⟩
  | compact => exact hrewritten (compact_of_ne_io hio).2
  | reopen => exact hrewritten (reopen_of_ne_io hio).2

theorem Ready.persists_moves (h : s.Ready) (moves : List Move)
    (hio : ∀ cause, .error (.io cause) ∉ (Action.each Move.onFile moves s).1) :
    (Action.each Move.onFile moves s).2.Ready ∧ s.contents.Persists (Action.each Move.onFile moves s).2.contents := by
  induction moves generalizing s with
  | nil => exact ⟨h, .refl _⟩
  | cons move moves ih =>
    obtain ⟨hready, hpersists⟩ := h.persists_move move fun cause heq => hio cause (heq ▸ List.mem_cons_self)
    obtain ⟨hready', hpersists'⟩ := ih hready fun cause hmem => hio cause (List.mem_cons_of_mem _ hmem)
    exact ⟨hready', hpersists.trans hpersists'⟩

theorem Ready.remembers (h : s.Ready) (before between : List Move)
    (hio : ∀ cause, .error (.io cause) ∉ (Action.each Move.onFile (before ++ between) s).1) :
    Remembers Move.onFile s before between := by
  rw [Action.each_append] at hio
  obtain ⟨hready, -⟩ := h.persists_moves before fun cause hmem => hio cause (List.mem_append_left _ hmem)
  obtain ⟨hready', hpersists⟩ := hready.persists_moves between fun cause hmem => hio cause (List.mem_append_right _ hmem)
  refine remembers_of_persists hready.answers.getById ?_ hpersists
  rw [Action.each_append]
  exact hready'.answers.getById

end FileStore

/-- No entry is lost, changed or live again after it was deleted: in a memory store that was empty at first, whatever
calls it gets, and in a file store that was opened on any bytes, whatever calls it gets and wherever between them its
log is written anew, as long as the disk does not fail. -/
theorem entries_persist : (∀ before between : List Call, Remembers Call.perform MemoryStore.empty before between) ∧
    ∀ (path : String) (d : Disk) (s : FileStore) (before between : List Move), FileStore.Opens path d s →
      (∀ cause, .error (.io cause) ∉ (Action.each Move.onFile (before ++ between) s).1) →
      Remembers Move.onFile s before between := by
  refine ⟨MemoryStore.remembers, ?_⟩
  intro path d s before between hopens hio
  exact hopens.rewritten.ready.remembers before between hio

theorem notedDisk_entries_persist : ∃ s, FileStore.Opens "log" FileStore.notedDisk s ∧
    Remembers Move.onFile s [.call (.add (Entry.create "a" "t" (some "u") (some "k"))), .compact]
      [.call (.softDelete "u" ["a"]), .reopen, .call (.add (Entry.create "a" "t'" none none))] := by
  obtain ⟨s, hs⟩ := FileStore.notedDisk_opens
  have hsteady : s.disk.Steady := hs.rewritten.later.steady fun _ h => by cases h
  exact ⟨s, hs, entries_persist.2 "log" _ s _ _ hs (hs.rewritten.ready.moves_of_steady hsteady _)⟩

end ShortLinks
