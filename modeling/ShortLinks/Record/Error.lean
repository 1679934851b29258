import ShortLinks.Bytes
import ShortLinks.Text.Quoted

/-!
# Why a record is refused

A record that cannot be decoded ends too early, is no well-formed object, or holds the wrong values. The
reason comes with the line and the column at which it was noticed.
-/

set_option autoImplicit false

namespace ShortLinks.Record

/-- The members of a record, in the order in which they are written. -/
inductive Field where
  | id
  | target
  | owner
  | correlation
  | deleted
deriving DecidableEq, Repr

def Field.name : Field → String
  | .id => "id"
  | .target => "target"
  | .owner => "ownerID"
  | .correlation => "correlationID"
  | .deleted => "deleted"

def Field.all : List Field := [.id, .target, .owner, .correlation, .deleted]

def Field.ofName? (name : String) : Option Field := Field.all.find? fun f => f.name == name

inductive Found where
  | null
  | boolean (value : Bool)
  | unsigned (value : Nat)
  | signed (value : Int)
  /-- A number with a fraction or beyond sixty-four bits, in its shortest form. -/
  | floating (text : String)
  | text (value : String)
  | sequence
  | map
deriving DecidableEq, Repr

def Found.describe : Found → String
  | .null => "null"
  | .boolean b => s!"boolean `{b}`"
  | .unsigned n => s!"integer `{n}`"
  | .signed n => s!"integer `{n}`"
  | .floating t => s!"floating point `{t}`"
  | .text s => "string " ++ Text.Quoted.text s
  | .sequence => "sequence"
  | .map => "map"

inductive Wanted where
  | record
  | text
  | boolean
deriving DecidableEq, Repr

def Wanted.describe : Wanted → String
  | .record => "struct ShortUrl"
  | .text => "a string"
  | .boolean => "a boolean"

inductive Reason where
  | endInList
  | endInObject
  | endInString
  | endInValue
  | expectedColon
  | expectedCommaOrBracket
  | expectedCommaOrBrace
  | expectedWord
  | expectedValue
  | invalidEscape
  | invalidNumber
  | numberOutOfRange
  | invalidCodePoint
  | controlCharacter
  | keyNotText
  | loneSurrogate
  | trailingComma
  | trailingCharacters
  | unpairedEscape
  | wrongType (found : Found) (wanted : Wanted)
  | duplicateField (field : Field)
  | missingField (field : Field)
  /-- A record in array form with fewer elements than it needs. -/
  | tooShort (size : Nat)
deriving DecidableEq, Repr

inductive Category where
  | endsEarly
  | malformed
  | wrongData
deriving DecidableEq, Repr

def Reason.category : Reason → Category
  | .endInList | .endInObject | .endInString | .endInValue => .endsEarly
  | .wrongType .. | .duplicateField _ | .missingField _ | .tooShort _ => .wrongData
  | _ => .malformed

def Reason.message : Reason → String
  | .endInList => "EOF while parsing a list"
  | .endInObject => "EOF while parsing an object"
  | .endInString => "EOF while parsing a string"
  | .endInValue => "EOF while parsing a value"
  | .expectedColon => "expected `:`"
  | .expectedCommaOrBracket => "expected `,` or `]`"
  | .expectedCommaOrBrace => "expected `,` or `\x7d`"
  | .expectedWord => "expected ident"
  | .expectedValue => "expected value"
  | .invalidEscape => "invalid escape"
  | .invalidNumber => "invalid number"
  | .numberOutOfRange => "number out of range"
  | .invalidCodePoint => "invalid unicode code point"
  | .controlCharacter => "control character (\\u0000-\\u001F) found while parsing a string"
  | .keyNotText => "key must be a string"
  | .loneSurrogate => "lone leading surrogate in hex escape"
  | .trailingComma => "trailing comma"
  | .trailingCharacters => "trailing characters"
  | .unpairedEscape => "unexpected end of hex escape"
  | .wrongType found wanted => s!"invalid type: {found.describe}, expected {wanted.describe}"
  | .duplicateField f => s!"duplicate field `{f.name}`"
  | .missingField f => s!"missing field `{f.name}`"
  | .tooShort n => s!"invalid length {n}, expected struct ShortUrl with 5 elements"

structure DecodeError where
  reason : Reason
  line : Nat
  column : Nat
deriving DecidableEq, Repr

def DecodeError.message (e : DecodeError) : String :=
  s!"{e.reason.message} at line {e.line} column {e.column}"

end ShortLinks.Record
