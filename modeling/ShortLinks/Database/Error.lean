import ShortLinks.IoError

/-!
# Failures of the database

A statement can be refused by the database, be lost on the way, or be answered by something that is not
what it asked for. Only a refusal tells which constraint it broke.
-/

set_option autoImplicit false

namespace ShortLinks.Database

inductive Violation where
  | unique
  | foreignKey
  | notNull
  | check
  | other
deriving DecidableEq, Repr

structure Refusal where
  violation : Violation
  constraint : Option String
  message : String
deriving DecidableEq, Repr

inductive DatabaseError where
  | rowNotFound
  | poolTimedOut
  | poolClosed
  | workerCrashed
  | protocol (reason : String)
  | io (cause : IoError)
  | refused (refusal : Refusal)
  | configuration (reason : String)
  /-- A setting that was itself found wrong while the address was read. -/
  | misconfigured (cause : DatabaseError)
  | undecodable (column : String) (reason : String)
  | migration (cause : DatabaseError)
deriving DecidableEq, Repr

namespace DatabaseError

def message : DatabaseError → String
  | .rowNotFound => "no rows returned by a query that expected to return at least one row"
  | .poolTimedOut => "pool timed out while waiting for an open connection"
  | .poolClosed => "attempted to acquire a connection on a closed pool"
  | .workerCrashed => "attempted to communicate with a crashed background worker"
  | .protocol reason => "encountered unexpected or invalid data: " ++ reason
  | .io cause => "error communicating with database: " ++ cause.message
  | .refused refusal => "error returned from database: " ++ refusal.message
  | .configuration reason => "error with configuration: " ++ reason
  | .misconfigured cause => "error with configuration: " ++ cause.message
  | .undecodable column reason => s!"error occurred while decoding column {column}: {reason}"
  | .migration cause => "while executing migrations: " ++ cause.message

def chain : DatabaseError → List String
  | .io cause => [(DatabaseError.io cause).message, cause.message]
  | .refused refusal => [(DatabaseError.refused refusal).message, refusal.message]
  | .configuration reason => [(DatabaseError.configuration reason).message, reason]
  | .misconfigured cause => (DatabaseError.misconfigured cause).message :: cause.chain
  | .undecodable column reason => [(DatabaseError.undecodable column reason).message, reason]
  | .migration cause =>
    (DatabaseError.migration cause).message :: (DatabaseError.migration cause).message :: cause.chain
  | e => [e.message]

end DatabaseError
end ShortLinks.Database
