import ShortLinks.Entry
import ShortLinks.Record.Skip

/-!
# Decoding records

A record is an object with the members of an entry in any order, or an array of their values. The
identifier and the target must be there; the owner and the correlation id may be missing or null, and an
entry that does not say so is not deleted. Unknown members are skipped, and no member may come twice.
-/

set_option autoImplicit false

namespace ShortLinks.Record

def describe : Bytes → Except Stop (Found × Bytes)
  | 110 :: s => (word nullTail s).map fun r => (.null, r)
  | 116 :: s => (word trueTail s).map fun r => (.boolean true, r)
  | 102 :: s => (word falseTail s).map fun r => (.boolean false, r)
  | 45 :: s => readNumber true s
  | 34 :: s => (readText s).map fun (t, r) => (.text t, r)
  | 91 :: s => .ok (.sequence, 91 :: s)
  | 123 :: s => .ok (.map, 123 :: s)
  | b :: s => if Bytes.isDigit b then readNumber false (b :: s) else .error (stopPast .expectedValue (b :: s))
  | [] => .error (stopPast .expectedValue [])

def wrongType {α : Type} (wanted : Wanted) (s : Bytes) : Scan α :=
  match describe s with
  | .error e => .error e
  | .ok (found, rest) => .error (stopAt (.wrongType found wanted) rest)

def readTextValue (s : Bytes) : Scan String :=
  match skipBlanks s with
  | [] => .error (stopPast .endInValue [])
  | 34 :: t => readText t
  | t => wrongType .text t

def readOptionalText (s : Bytes) : Scan (Option String) :=
  match skipBlanks s with
  | 110 :: t => (word nullTail t).map fun r => (none, r)
  | t => (readTextValue t).map fun (v, r) => (some v, r)

def readBoolean (s : Bytes) : Scan Bool :=
  match skipBlanks s with
  | [] => .error (stopPast .endInValue [])
  | 116 :: t => (word trueTail t).map fun r => (true, r)
  | 102 :: t => (word falseTail t).map fun r => (false, r)
  | t => wrongType .boolean t

structure Members where
  id : Option String
  target : Option String
  owner : Option (Option String)
  correlation : Option (Option String)
  deleted : Option Bool
deriving DecidableEq, Repr

namespace Members

def empty : Members := ⟨none, none, none, none, none⟩

def has (m : Members) : Field → Bool
  | .id => m.id.isSome
  | .target => m.target.isSome
  | .owner => m.owner.isSome
  | .correlation => m.correlation.isSome
  | .deleted => m.deleted.isSome

/-- The entry that the members make up, or the first member that it lacks. -/
def entry (m : Members) : Except Field Entry :=
  match m.id, m.target with
  | none, _ => .error .id
  | some _, none => .error .target
  | some id, some target => .ok
    { id, target, owner := m.owner.join, correlation := m.correlation.join, deleted := m.deleted.getD false }

def read (m : Members) (field : Field) (s : Bytes) : Scan Members :=
  match field with
  | .id => (readTextValue s).map fun (v, r) => ({ m with id := some v }, r)
  | .target => (readTextValue s).map fun (v, r) => ({ m with target := some v }, r)
  | .owner => (readOptionalText s).map fun (v, r) => ({ m with owner := some v }, r)
  | .correlation => (readOptionalText s).map fun (v, r) => ({ m with correlation := some v }, r)
  | .deleted => (readBoolean s).map fun (v, r) => ({ m with deleted := some v }, r)

end Members

/-- A fault of the record as a whole shows where the record ends: blanks and the closing mark, if they
come next, count as read. -/
def stopAfterClose (close : UInt8) (reason : Reason) (s : Bytes) : Stop :=
  match skipBlanks s with
  | b :: t => stopAt reason (if b = close then t else b :: t)
  | [] => stopAt reason []

def skipColon (s : Bytes) : Except Stop Bytes :=
  match skipBlanks s with
  | 58 :: t => .ok t
  | [] => .error (stopPast .endInObject [])
  | t => .error (stopPast .expectedColon t)

def readMember (m : Members) (s : Bytes) : Except Stop (Members × Bytes) := do
  let (key, s) ← readText s
  match Field.ofName? key with
  | some field =>
    if m.has field then throw (stopAfterClose 125 (.duplicateField field) s)
    m.read field (← skipColon s)
  | none => return (m, ← skipValue (← skipColon s))

/-- Reads members up to the closing brace; `fuel` bounds their number. -/
def readMembers : Nat → Bool → Members → Bytes → Scan Members
  | 0, _, _, s => .error (stopAt .endInObject s)
  | fuel + 1, isFirst, m, s =>
    match skipBlanks s with
    | [] => .error (stopPast .endInObject [])
    | 125 :: t => .ok (m, 125 :: t)
    | 34 :: t =>
      if isFirst then (readMember m t).bind fun (m, s) => readMembers fuel false m s
      else .error (stopPast .expectedCommaOrBrace (34 :: t))
    | 44 :: t =>
      if isFirst then .error (stopPast .keyNotText (44 :: t))
      else match skipBlanks t with
        | [] => .error (stopPast .endInValue [])
        | 34 :: u => (readMember m u).bind fun (m, s) => readMembers fuel false m s
        | 125 :: u => .error (stopPast .trailingComma (125 :: u))
        | u => .error (stopPast .keyNotText u)
    | t => .error (stopPast (if isFirst then .keyNotText else .expectedCommaOrBrace) t)

def readObject (s : Bytes) : Except Stop (Entry × Bytes) := do
  let (m, s) ← readMembers (s.length + 1) true Members.empty s
  match m.entry with
  | .error field => throw (stopAfterClose 125 (.missingField field) s)
  | .ok entry => return (entry, s.drop 1)

/-- Whether another element of an array follows, and what it starts with. -/
def nextElement (isFirst : Bool) (s : Bytes) : Scan Bool :=
  match skipBlanks s with
  | [] => .error (stopPast .endInList [])
  | 93 :: t => .ok (false, 93 :: t)
  | 44 :: t =>
    if isFirst then .ok (true, 44 :: t)
    else match skipBlanks t with
      | [] => .error (stopPast .endInValue [])
      | 93 :: u => .error (stopPast .trailingComma (93 :: u))
      | u => .ok (true, u)
  | t => if isFirst then .ok (true, t) else .error (stopPast .expectedCommaOrBracket t)

def readElements (isFirst : Bool) (m : Members) :
    List Field → Bytes → Except Stop ((Members × Nat) × Bytes)
  | [], s => .ok ((m, 0), s)
  | field :: fields, s => do
    let (more, s) ← nextElement isFirst s
    if more then
      let (m, s) ← m.read field s
      let ((m, n), s) ← readElements false m fields s
      return ((m, n + 1), s)
    else return ((m, 0), s)

def closeArray (s : Bytes) : Except Stop Bytes :=
  match skipBlanks s with
  | 93 :: t => .ok t
  | 44 :: t => match skipBlanks t with
    | 93 :: u => .error (stopPast .trailingComma (93 :: u))
    | u => .error (stopPast .trailingCharacters u)
  | [] => .error (stopPast .endInList [])
  | t => .error (stopPast .trailingCharacters t)

def readArray (s : Bytes) : Except Stop (Entry × Bytes) := do
  let ((m, n), s) ← readElements true Members.empty Field.all s
  match m.entry with
  | .error _ => throw (stopAfterClose 93 (.tooShort n) s)
  | .ok entry => return (entry, ← closeArray s)

def readBody (s : Bytes) : Scan Entry :=
  match skipBlanks s with
  | [] => .error (stopPast .endInValue [])
  | 123 :: t => readObject t
  | 91 :: t => readArray t
  | t => wrongType .record t

def readRecord (s : Bytes) : Except Stop Entry := do
  let (entry, rest) ← readBody s
  match skipBlanks rest with
  | [] => return entry
  | t => throw (stopPast .trailingCharacters t)

def decode (s : Bytes) : Except DecodeError Entry :=
  match readRecord s with
  | .ok entry => .ok entry
  | .error stop =>
    let (line, column) := Bytes.position s (s.length - stop.left)
    .error ⟨stop.reason, line, column⟩

end ShortLinks.Record
