import ShortLinks.Database.Statement

/-!
# Databases

A database is asked for a connection and answers the statements that are sent to it over one. What a transaction
has done and not committed is undone when its connection is given back.
-/

set_option autoImplicit false

namespace ShortLinks

inductive Database.Access where
  | granted
  | failed (cause : DatabaseError)
  /-- No connection had come when the wait for one was over. -/
  | stalled
deriving DecidableEq, Repr

/-- What comes of the wait for a connection, where a failure means what `explain` says and `late` stands for none
in time. -/
def Database.Access.outcome {ε : Type} (explain : DatabaseError → ε) (late : ε) : Access → Except ε Unit
  | .granted => .ok ()
  | .failed cause => .error (explain cause)
  | .stalled => .error late

class Database (δ : Type) where
  acquire : δ → Database.Access × δ
  send : Database.Statement → δ → Database.Reply × δ
  release : δ → δ

namespace Database

/-- A database that answers from a list. It notes what was sent; beyond the list, statements get no rows. -/
structure Scripted where
  unreachable : Option IoError
  replies : List Reply
  sent : List Statement

instance : Database Scripted where
  acquire d := match d.unreachable with
    | some cause => (.failed (.io cause), d)
    | none => (.granted, d)
  send statement d :=
    let d := { d with sent := d.sent ++ [statement] }
    match statement with
    | .start | .commit | .migrate => (.affected 0, d)
    | _ => (d.replies.headD (.rows []), { d with replies := d.replies.tail })
  release d := d

end Database
end ShortLinks
