import ShortLinks.Database.Error
import ShortLinks.Record.Error
import ShortLinks.Text.Duration

/-!
# Failures of a store

A store refuses an entry whose target or id is taken; every other failure comes from below it. Failures
of the disk and of the database, and calls that took too long, may pass if the call is made again.
-/

set_option autoImplicit false

namespace ShortLinks

open Database (DatabaseError)

inductive StoreError where
  | createConflict (existing : String)
  | duplicateId (id : String)
  | io (cause : IoError)
  | database (cause : DatabaseError)
  | timeout (limit : Duration)
  | encoding (cause : Record.DecodeError)
deriving DecidableEq, Repr

namespace StoreError

def message : StoreError → String
  | .createConflict existing => "url already shortened as " ++ existing
  | .duplicateId id => s!"short id {id} is already taken"
  | .io cause => "storage i/o error: " ++ cause.message
  | .database cause => "database error: " ++ cause.message
  | .timeout limit => "storage operation timed out after " ++ limit.text
  | .encoding cause => "record encoding error: " ++ cause.message

def isTransient : StoreError → Bool
  | .io _ | .database _ | .timeout _ => true
  | .createConflict _ | .duplicateId _ | .encoding _ => false

def chain (e : StoreError) : List String :=
  e.message :: match e with
    | .io cause => [cause.message]
    | .database cause => cause.chain
    | .encoding cause => [cause.message]
    | .createConflict _ | .duplicateId _ | .timeout _ => []

def idIndex : String := "short_url_id_uindex"

/-- What a failed statement about the entry `id` means: breaking the index of ids says that the id is
taken, and nothing else does. -/
def ofDatabase (id : String) : DatabaseError → StoreError
  | .refused refusal =>
    if refusal.violation = .unique ∧ refusal.constraint = some idIndex then .duplicateId id
    else .database (.refused refusal)
  | e => .database e

end StoreError
end ShortLinks
