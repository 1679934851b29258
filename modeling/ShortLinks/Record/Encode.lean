import ShortLinks.Entry
import ShortLinks.Record.Error

/-!
# Encoding records

A record is written as an object without blanks, its members in a fixed order. An owner or a correlation
id that is not there is left out. In strings, quotes, backslashes and controls are escaped, so that a
record never holds a line break.
-/

set_option autoImplicit false

namespace ShortLinks.Record

def lowerHexDigit (n : Nat) : UInt8 := UInt8.ofNat (if n < 10 then 48 + n else 87 + n)

def escapeByte (b : UInt8) : Bytes :=
  if b = 34 then [92, 34]
  else if b = 92 then [92, 92]
  else if b = 8 then [92, 98]
  else if b = 9 then [92, 116]
  else if b = 10 then [92, 110]
  else if b = 12 then [92, 102]
  else if b = 13 then [92, 114]
  else if b < 32 then [92, 117, 48, 48, lowerHexDigit (b.toNat / 16), lowerHexDigit (b.toNat % 16)]
  else [b]

def encodeText (s : String) : Bytes := 34 :: (Bytes.ofText s).flatMap escapeByte ++ [34]

def encodeMember (field : Field) (value : Bytes) : Bytes := encodeText field.name ++ 58 :: value

def encodeBool (b : Bool) : Bytes := Bytes.ofText (if b then "true" else "false")

def members (e : Entry) : List Bytes :=
  [encodeMember .id (encodeText e.id), encodeMember .target (encodeText e.target)] ++
    (e.owner.map fun o => encodeMember .owner (encodeText o)).toList ++
    (e.correlation.map fun c => encodeMember .correlation (encodeText c)).toList ++
    [encodeMember .deleted (encodeBool e.deleted)]

def encode (e : Entry) : Bytes := [123] ++ ((members e).intersperse [44]).flatten ++ [125]

end ShortLinks.Record
