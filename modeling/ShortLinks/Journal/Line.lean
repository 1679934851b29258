import ShortLinks.Journal.Filter
import ShortLinks.Record.Encode

/-!
# Log lines

An event is written as one line: as text, with its level, its origin, its message and its fields, or as an
object whose members are in the order of their names.
-/

set_option autoImplicit false

namespace ShortLinks.Journal

inductive Format where
  | text
  | object
deriving DecidableEq, Repr

def Format.ofSetting (name : String) : Format := if name = "json" then .object else .text

def spellControl (c : Char) : String :=
  let n := c.toNat
  if n = 0x1b then "\\x1b"
  else if n = 0x07 then "\\x07"
  else if n = 0x08 then "\\x08"
  else if n = 0x0c then "\\x0c"
  else if n = 0x7f then "\\x7f"
  else if 0x80 ≤ n ∧ n ≤ 0x9f then "\\u\x7b" ++ Text.Quoted.hexDigits n ++ "\x7d"
  else String.singleton c

def spellControls (s : String) : String := String.join (s.toList.map spellControl)

def FieldValue.text : FieldValue → String
  | .plain text => text
  | .quoted text => Text.Quoted.text text
  | .number n => toString n

def textLine (e : Event) : String :=
  let fields := e.fields.map fun (name, value) => " " ++ name ++ "=" ++ FieldValue.text value
  s!"{e.level.name} {e.origin.name}: {spellControls e.message}" ++ String.join fields

def quote (s : String) : String := (Bytes.text? (Record.encodeText s)).getD ""

def FieldValue.member : FieldValue → String
  | .plain text | .quoted text => quote text
  | .number n => toString n

def object (members : List (String × String)) : String :=
  let sorted := members.mergeSort fun a b => a.1 ≤ b.1
  "\x7b" ++ String.intercalate "," (sorted.map fun (name, value) => quote name ++ ":" ++ value) ++ "\x7d"

def objectLine (e : Event) : String :=
  let fields := ("message", quote e.message) :: e.fields.map fun (name, value) => (name, FieldValue.member value)
  object [("fields", object fields), ("level", quote e.level.name), ("target", quote e.origin.name)]

def line : Format → Event → String
  | .text => textLine
  | .object => objectLine

def lines (filter : Filter) (format : Format) (events : List Event) : List String :=
  (events.filter filter.letsThrough).map (line format)

end ShortLinks.Journal
