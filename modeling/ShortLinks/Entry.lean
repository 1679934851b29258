/-!
# Entries

An entry maps a short id to a target. Its id, target, owner and correlation id are fixed when it is
stored; the only change it ever sees is that it becomes deleted.
-/

set_option autoImplicit false

namespace ShortLinks

structure Entry where
  id : String
  target : String
  /-- The recorded owner; an anonymous entry has none. -/
  owner : Option String
  /-- A token of the client that asked for the entry, handed back unchanged. -/
  correlation : Option String
  deleted : Bool
deriving DecidableEq, Repr, Inhabited

namespace Entry

/-- A live entry. An empty owner is anonymous. -/
def create (id target : String) (owner correlation : Option String) : Entry :=
  { id, target, owner := owner.filter (· != ""), correlation, deleted := false }

/-- Anonymous entries are owned by nobody, so they never match, and neither does an empty name. -/
def isOwnedBy (e : Entry) (owner : String) : Bool :=
  owner != "" && e.owner == some owner

/-- Owned entries can be deleted by their owner alone, anonymous ones by anyone with a name. -/
def canBeDeletedBy (e : Entry) (requester : String) : Bool :=
  requester != "" && (e.owner.isNone || e.owner == some requester)

def markDeleted (e : Entry) : Entry := { e with deleted := true }

def isLiveFor (e : Entry) (target : String) : Bool := !e.deleted && e.target == target

end Entry

structure Submission where
  target : String
  correlation : Option String
deriving DecidableEq, Repr, Inhabited

structure Stats where
  urls : Nat
  users : Nat
deriving DecidableEq, Repr, Inhabited

end ShortLinks
