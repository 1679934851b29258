import ShortLinks.Bytes
import ShortLinks.Unicode.Printable

/-!
# Quoted text

Text between quotes in messages and log lines, so that what cannot be seen is spelled out: quotes,
backslashes and the usual controls by a backslash and a letter, every other character that is not
printable, or that would attach to its neighbour, by its number.
-/

set_option autoImplicit false

namespace ShortLinks.Text.Quoted

def hexDigits (n : Nat) : String := String.ofList (Nat.toDigits 16 n)

def escapeChar (c : Char) : String :=
  if c == '\x00' then "\\0"
  else if c == '\t' then "\\t"
  else if c == '\n' then "\\n"
  else if c == '\r' then "\\r"
  else if c == '"' then "\\\""
  else if c == '\\' then "\\\\"
  else if c == ' ' then " "
  else if Unicode.isExtending c || !Unicode.isPrintable c then "\\u\x7b" ++ hexDigits c.toNat ++ "\x7d"
  else String.singleton c

def escape (s : String) : String := String.join (s.toList.map escapeChar)

def text (s : String) : String := "\"" ++ escape s ++ "\""

def list (texts : List String) : String := "[" ++ String.intercalate ", " (texts.map text) ++ "]"

def strayByte (b : UInt8) : String :=
  "\\x" ++ String.ofList ((Nat.toDigits 16 (256 + b.toNat)).drop 1 |>.map Char.toUpper)

/-- The longest piece in front, of at most four bytes, that is the UTF-8 form of one character. -/
def leadingChar? (b : Bytes) : Option (String × Bytes) :=
  [1, 2, 3, 4].findSome? fun n =>
    if b.length < n then none else (Bytes.text? (b.take n)).map fun s => (s, b.drop n)

def escapeBytes : Nat → Bytes → String
  | 0, _ => ""
  | _, [] => ""
  | fuel + 1, b :: rest => match leadingChar? (b :: rest) with
    | some (s, after) => (if s == "\'" then "\\'" else escape s) ++ escapeBytes fuel after
    | none => strayByte b ++ escapeBytes fuel rest

/-- Bytes of which some may belong to no character. Here a single quote is spelled out too. -/
def bytes (b : Bytes) : String := "\"" ++ escapeBytes b.length b ++ "\""

end ShortLinks.Text.Quoted
