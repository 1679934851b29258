import ShortLinks.Details
import ShortLinks.Entry
import ShortLinks.Store.Error
import ShortLinks.Target

/-!
# Failures of the service

What a request can be told when it fails. Every failure has a code that does not change, a message and
details.
-/

set_option autoImplicit false

namespace ShortLinks

inductive ServiceError where
  | validation (message : String) (details : Details)
  | notFound (id : String)
  | gone (id : String)
  | unavailable (message : String)
  | storage (cause : StoreError)
  | internal (message : String) (details : Details)

namespace ServiceError

def message : ServiceError → String
  | .validation message _ | .unavailable message | .internal message _ => message
  | .notFound id => s!"short url {id} not found"
  | .gone id => s!"short url {id} has been deleted"
  | .storage cause => cause.message

def code : ServiceError → String
  | .validation .. => "validation_error"
  | .notFound _ => "not_found"
  | .gone _ => "gone"
  | .unavailable _ => "unavailable"
  | .storage cause => if cause.isTransient then "storage_unavailable" else "internal_error"
  | .internal .. => "internal_error"

def details : ServiceError → Details
  | .validation _ details | .internal _ details => details
  | .notFound id | .gone id => .object [("id", .text id)]
  | .unavailable _ | .storage _ => .object []

def badTarget (cause : TargetError) : ServiceError :=
  .validation "Invalid URL format" (.reason cause.message)

def badItem (index : Nat) (item : Submission) (cause : TargetError) : ServiceError :=
  .validation "Invalid URL format" (.object [
    ("index", .ofNat index), ("correlation_id", .ofOption item.correlation), ("reason", .text cause.message)])

def tooManyCollisions : ServiceError := .internal "Failed to generate unique id" (.reason "Too many collisions")

def tooManyBatchCollisions : ServiceError :=
  .internal "Failed to generate unique ids" (.reason "Too many collisions")

def noIdentifier (reason : String) : ServiceError := .internal "Failed to generate identifier" (.reason reason)

end ServiceError
end ShortLinks
