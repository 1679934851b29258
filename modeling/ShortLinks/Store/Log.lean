import ShortLinks.Record.Decode
import ShortLinks.Record.Encode
import ShortLinks.Store
import Std.Data.HashMap

/-!
# The record log

A log is a text of records, one on each line. Read in order, the first record of an id fixes its entry, and
a later record of that id can do no more than mark the entry deleted. Lines that are no record are kept
as they are, so that writing the log anew loses nothing.
-/

set_option autoImplicit false

namespace ShortLinks

/-- What a log says: its entries in the order of their first records, where each id stands among them, and
the lines that could not be read, without their ends. -/
structure Log where
  entries : Array Entry
  positions : Std.HashMap String Nat
  unparsed : List Bytes

namespace Log

def empty : Log := ⟨#[], ∅, []⟩

def apply (log : Log) (record : Entry) : Log :=
  match log.positions[record.id]? with
  | some position =>
    if record.deleted then { log with entries := log.entries.modify position Entry.markDeleted } else log
  | none =>
    { log with
      positions := log.positions.insert record.id log.entries.size
      entries := log.entries.push record }

def get? (log : Log) (id : String) : Option Entry := log.positions[id]?.bind fun position => log.entries[position]?

def contains (log : Log) (id : String) : Bool := log.positions.contains id

def liveFor? (log : Log) (target : String) : Option Entry := log.entries.find? (·.isLiveFor target)

/-- A line without its line feed, and without one carriage return before that. -/
def dropLineEnd (line : Bytes) : Bytes :=
  let dropLast (b : UInt8) (reversed : Bytes) : Bytes := if reversed.head? = some b then reversed.tail else reversed
  (dropLast 13 (dropLast 10 line.reverse)).reverse

inductive Line where
  | blank
  | record (entry : Entry)
  | malformed (text : Bytes) (cause : Record.DecodeError)

def readLine (line : Bytes) : Line :=
  if line.all Bytes.isAsciiBlank then .blank
  else match Record.decode line with
    | .ok entry => .record entry
    | .error cause => .malformed (dropLineEnd line) cause

def take (log : Log) : Line → Log
  | .blank => log
  | .record entry => log.apply entry
  | .malformed text _ => { log with unparsed := log.unparsed ++ [text] }

def ofLines (lines : List Line) : Log := lines.foldl take empty

def ofBytes (content : Bytes) : Log := ofLines ((Bytes.lines content).map readLine)

def faults (lines : List Line) : List (Nat × Record.DecodeError) :=
  (lines.zipIdx 1).filterMap fun
    | (.malformed _ cause, number) => some (number, cause)
    | _ => none

def recordLine (e : Entry) : Bytes := Record.encode e ++ [10]

def recordLines (entries : List Entry) : Bytes := entries.flatMap recordLine

/-- The text of one record for each id, with the lines that could not be read after them. -/
def toBytes (log : Log) : Bytes :=
  recordLines log.entries.toList ++ log.unparsed.flatMap fun line => line ++ [10]

/-- Why an entry cannot be added; a taken target counts before a taken id. -/
def refusal? (log : Log) (e : Entry) : Option StoreError :=
  match log.liveFor? e.target with
  | some existing => some (.createConflict existing.id)
  | none => if log.contains e.id then some (.duplicateId e.id) else none

/-- What answers for each item of a batch, and which records that adds. -/
def storeItems (log : Log) : List Entry → List Entry × List Entry
  | [] => ([], [])
  | item :: rest => match log.liveFor? item.target with
    | some existing =>
      let (answers, records) := log.storeItems rest
      (existing.answering item :: answers, records)
    | none =>
      let (answers, records) := (log.apply item).storeItems rest
      (item :: answers, item :: records)

/-- The records that delete what the requester may delete of the entries named. -/
def tombstones (log : Log) (requester : String) : List String → List Entry
  | [] => []
  | id :: rest => match log.get? id with
    | none => log.tombstones requester rest
    | some e =>
      if e.canBeDeletedBy requester && !e.deleted then
        e.markDeleted :: (log.apply e.markDeleted).tombstones requester rest
      else log.tombstones requester rest

end Log
end ShortLinks
