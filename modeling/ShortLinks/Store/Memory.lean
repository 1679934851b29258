import ShortLinks.Store
import Std.Data.HashMap

/-!
# The memory store

Entries under their ids, and beside them the id of the live entry of every target that has one.
-/

set_option autoImplicit false

namespace ShortLinks

structure MemoryStore where
  byId : Std.HashMap String Entry
  liveTargets : Std.HashMap String String

namespace MemoryStore

def empty : MemoryStore := ⟨∅, ∅⟩

/-- Keeps an entry; a live one answers for its target from now on. -/
def insert (s : MemoryStore) (e : Entry) : MemoryStore where
  byId := s.byId.insert e.id e
  liveTargets := if e.deleted then s.liveTargets else s.liveTargets.insert e.target e.id

def liveFor? (s : MemoryStore) (target : String) : Option Entry :=
  s.liveTargets[target]?.bind fun id => s.byId[id]?

/-- Why an entry cannot be stored; a taken target counts before a taken id. -/
def refusal? (s : MemoryStore) (e : Entry) : Option StoreError :=
  match s.liveTargets[e.target]? with
  | some existing => some (.createConflict existing)
  | none => if s.byId.contains e.id then some (.duplicateId e.id) else none

def storeItem (s : MemoryStore) (item : Entry) : Entry × MemoryStore :=
  match s.liveFor? item.target with
  | some existing => (existing.answering item, s)
  | none => (item, s.insert item)

def storeItems (s : MemoryStore) : List Entry → List Entry × MemoryStore
  | [] => ([], s)
  | item :: rest =>
    let (answer, s) := s.storeItem item
    let (answers, s) := s.storeItems rest
    (answer :: answers, s)

def delete (s : MemoryStore) (requester id : String) : MemoryStore :=
  match s.byId[id]? with
  | none => s
  | some e =>
    if e.canBeDeletedBy requester && !e.deleted then
      { byId := s.byId.insert id e.markDeleted
        liveTargets :=
          if s.liveTargets[e.target]? = some e.id then s.liveTargets.erase e.target else s.liveTargets }
    else s

def entries (s : MemoryStore) : List Entry := s.byId.toList.map Prod.snd

def add (e : Entry) : Action StoreError MemoryStore String := fun s =>
  match s.refusal? e with
  | some refusal => ⟨.error refusal, s, []⟩
  | none => ⟨.ok e.id, s.insert e, []⟩

def createBatch (batch : List Entry) : Action StoreError MemoryStore (List Entry) := fun s =>
  match firstTaken? s.byId.contains batch with
  | some id => ⟨.error (.duplicateId id), s, []⟩
  | none => ⟨.ok (s.storeItems batch).1, (s.storeItems batch).2, []⟩

def softDelete (requester : String) (ids : List String) : Action StoreError MemoryStore Unit :=
  Action.modify fun s => ids.foldl (fun s id => s.delete requester id) s

instance : Store MemoryStore where
  add := add
  getById id := fun s => ⟨.ok s.byId[id]?, s, []⟩
  allByOwner owner := fun s => ⟨.ok (s.entries.filter (·.isOwnedBy owner)), s, []⟩
  createBatch := createBatch
  softDelete := softDelete
  stats := fun s => ⟨.ok (Stats.ofEntries s.entries), s, []⟩
  ping := pure ()
  close := pure ()

end MemoryStore
end ShortLinks
