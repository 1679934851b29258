import ShortLinks.Action
import ShortLinks.Entry

/-!
# Stores

What the service asks of a store. A store keeps entries under ids that callers choose; an id is taken for
good, and no two live entries have one target.
-/

set_option autoImplicit false

namespace ShortLinks

class Store (σ : Type) where
  /-- Stores a new entry and gives its id back. Fails with the id of the live entry for the same target if
  there is one, and otherwise if the id is taken. -/
  add : Entry → Action StoreError σ String
  getById : String → Action StoreError σ (Option Entry)
  allByOwner : String → Action StoreError σ (List Entry)
  /-- Stores the entries whose target is free and gives back, for each, what is stored for its target. Fails
  before anything is stored if an id is taken. -/
  createBatch : List Entry → Action StoreError σ (List Entry)
  softDelete : String → List String → Action StoreError σ Unit
  stats : Action StoreError σ Stats
  ping : Action StoreError σ Unit
  close : Action StoreError σ Unit

def Stats.ofEntries (entries : List Entry) : Stats :=
  { urls := entries.length, users := (entries.filterMap Entry.owner).eraseDups.length }

/-- The first id of a batch that is taken, or that an earlier entry of the batch has. -/
def firstTaken? (taken : String → Bool) : List Entry → Option String
  | [] => none
  | e :: rest =>
    if taken e.id then some e.id
    else firstTaken? (fun id => taken id || id == e.id) rest

theorem firstTaken?_cons_eq_none {taken : String → Bool} {e : Entry} {rest : List Entry}
    (h : firstTaken? taken (e :: rest) = none) :
    taken e.id = false ∧ firstTaken? (fun id => taken id || id == e.id) rest = none := by
  rw [firstTaken?] at h
  split at h
  · cases h
  · next hid => exact ⟨by simpa using hid, h⟩

theorem firstTaken?_eq_none {taken : String → Bool} {batch : List Entry} (hnodup : (batch.map Entry.id).Nodup)
    (hfree : ∀ e ∈ batch, taken e.id = false) : firstTaken? taken batch = none := by
  induction batch generalizing taken with
  | nil => rfl
  | cons e rest ih =>
    rw [List.map_cons, List.nodup_cons] at hnodup
    rw [firstTaken?, hfree e List.mem_cons_self]
    refine ih hnodup.2 fun x hx => ?_
    have hne : x.id ≠ e.id := fun heq => hnodup.1 (heq ▸ List.mem_map_of_mem hx)
    simp [hfree x (List.mem_cons_of_mem e hx), hne]

theorem firstTaken?_eq_none_of_le {taken fewer : String → Bool} {batch : List Entry}
    (hle : ∀ id, fewer id = true → taken id = true) (h : firstTaken? taken batch = none) :
    firstTaken? fewer batch = none := by
  induction batch generalizing taken fewer with
  | nil => rfl
  | cons e rest ih =>
    obtain ⟨hid, hrest⟩ := firstTaken?_cons_eq_none h
    have hfewer : fewer e.id = false := by
      cases hf : fewer e.id with
      | false => rfl
      | true => rw [hle e.id hf] at hid; cases hid
    rw [firstTaken?, hfewer]
    refine ih (fun id hid => ?_) hrest
    simp only [Bool.or_eq_true] at hid ⊢
    exact hid.imp_left (hle id)

/-- What a batch answers for an item whose target is taken: the stored entry, with the item's own token. -/
def Entry.answering (existing item : Entry) : Entry := { existing with correlation := item.correlation }

end ShortLinks
