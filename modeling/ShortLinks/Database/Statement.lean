import ShortLinks.Database.Error
import ShortLinks.Entry

/-!
# Statements

What the store says to a database and what a database answers. The table has a unique index of the ids and
one of the targets of live rows, so that inserting an entry whose target is taken gives back the row that
has it.
-/

set_option autoImplicit false

namespace ShortLinks.Database

inductive Statement where
  | start
  | commit
  /-- Inserts an entry, or gives back the id and the owner of the live row for its target. -/
  | upsert (entry : Entry)
  | selectById (id : String)
  | selectByOwner (owner : String)
  /-- Deletes the live rows among `ids` that the requester owns or nobody does. -/
  | delete (requester : String) (ids : List String)
  | count
  | probe
  | migrate
deriving DecidableEq, Repr

inductive Parameter where
  | text (value : String)
  | null
  | texts (values : List String)
deriving DecidableEq, Repr

def Parameter.ofOption : Option String → Parameter
  | some value => .text value
  | none => .null

namespace Statement

def text : Statement → String
  | .start => "BEGIN"
  | .commit => "COMMIT"
  | .upsert _ =>
    "INSERT INTO short_url (id, url, user_id, correlation_id) VALUES ($1, $2, $3, $4) " ++
      "ON CONFLICT (url) WHERE NOT deleted DO UPDATE SET url = EXCLUDED.url RETURNING id, user_id"
  | .selectById _ => "SELECT id, url, user_id, correlation_id, deleted FROM short_url WHERE id = $1"
  | .selectByOwner _ => "SELECT id, url, user_id, correlation_id, deleted FROM short_url WHERE user_id = $1"
  | .delete .. =>
    "UPDATE short_url SET deleted = TRUE " ++
      "WHERE (user_id = $1 OR user_id IS NULL) AND id = ANY($2) AND NOT deleted"
  | .count => "SELECT COUNT(*), COUNT(DISTINCT user_id) FROM short_url"
  | .probe => "SELECT 1"
  | .migrate => "migration"

def parameters : Statement → List Parameter
  | .upsert e => [.text e.id, .text e.target, .ofOption e.owner, .ofOption e.correlation]
  | .selectById id => [.text id]
  | .selectByOwner owner => [.text owner]
  | .delete requester ids => [.text requester, .texts ids]
  | .start | .commit | .count | .probe | .migrate => []

end Statement

inductive Cell where
  | text (value : String)
  | boolean (value : Bool)
  | integer (value : Int)
  | null
deriving DecidableEq, Repr

abbrev Row := List Cell

inductive Reply where
  | rows (rows : List Row)
  | affected (rows : Nat)
  | failed (cause : DatabaseError)
  | stalled
deriving DecidableEq, Repr

namespace Row

def mismatched : String := "mismatched types"

def cell (row : Row) (index : Nat) (column : String) : Except DatabaseError Cell :=
  match row[index]? with
  | some cell => .ok cell
  | none => .error (.undecodable column s!"column index out of bounds: the len is {row.length}, but the index is {index}")

def text (row : Row) (index : Nat) (column : String) : Except DatabaseError String := do
  match ← row.cell index column with
  | .text value => .ok value
  | .null => .error (.undecodable column "unexpected null; try decoding as an `Option`")
  | _ => .error (.undecodable column mismatched)

def optionalText (row : Row) (index : Nat) (column : String) : Except DatabaseError (Option String) := do
  match ← row.cell index column with
  | .text value => .ok (some value)
  | .null => .ok none
  | _ => .error (.undecodable column mismatched)

def boolean (row : Row) (index : Nat) (column : String) : Except DatabaseError Bool := do
  match ← row.cell index column with
  | .boolean value => .ok value
  | .null => .error (.undecodable column "unexpected null; try decoding as an `Option`")
  | _ => .error (.undecodable column mismatched)

def integer (row : Row) (index : Nat) (column : String) : Except DatabaseError Int := do
  match ← row.cell index column with
  | .integer value => .ok value
  | .null => .error (.undecodable column "unexpected null; try decoding as an `Option`")
  | _ => .error (.undecodable column mismatched)

def stored (row : Row) : Except DatabaseError (String × Option String) := do
  return (← row.text 0 "0", ← row.optionalText 1 "1")

def entry (row : Row) : Except DatabaseError Entry := do
  return {
    id := ← row.text 0 "\"id\""
    target := ← row.text 1 "\"url\""
    owner := ← row.optionalText 2 "\"user_id\""
    correlation := ← row.optionalText 3 "\"correlation_id\""
    deleted := ← row.boolean 4 "\"deleted\"" }

def stats (row : Row) : Except DatabaseError Stats := do
  return { urls := (← row.integer 0 "0").toNat, users := (← row.integer 1 "1").toNat }

end Row

end ShortLinks.Database
