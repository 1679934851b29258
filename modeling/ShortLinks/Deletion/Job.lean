/-!
# Delete jobs

A delete job asks for entries to be deleted on behalf of an owner. It is queued when the request is
made and applied later.
-/

set_option autoImplicit false

namespace ShortLinks.Deletion

structure Job where
  owner : String
  ids : List String
deriving DecidableEq, Repr, Inhabited

def Job.isEmpty (job : Job) : Bool := job.ids.isEmpty

end ShortLinks.Deletion
