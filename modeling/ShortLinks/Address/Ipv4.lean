/-!
# IPv4 hosts

A host is an IPv4 address if its last label is a number. It then has one to four parts, decimal, octal
after a zero or hexadecimal after `0x`; the last part fills what the others leave of thirty-two bits.
-/

set_option autoImplicit false

namespace ShortLinks.Address.Ipv4

def isOctal (c : Char) : Bool := '0' ≤ c && c ≤ '7'

def isHex (c : Char) : Bool := c.isDigit || ('a' ≤ c && c ≤ 'f') || ('A' ≤ c && c ≤ 'F')

def digitValue (c : Char) : Nat :=
  if c.isDigit then c.toNat - 48 else if c ≤ 'F' then c.toNat - 55 else c.toNat - 87

def value (base : Nat) (s : List Char) : Nat := s.foldl (fun n c => base * n + digitValue c) 0

/-- The number that a part spells. A zero or `0x` without digits is zero. -/
def number? : List Char → Option Nat
  | [] => none
  | '0' :: 'x' :: s => if s.all isHex then some (value 16 s) else none
  | '0' :: 'X' :: s => if s.all isHex then some (value 16 s) else none
  | '0' :: c :: s => if (c :: s).all isOctal then some (value 8 (c :: s)) else none
  | s => if s.all Char.isDigit then some (value 10 s) else none

/-- A label that makes a host an address: digits alone, even if they are no number, or a number. -/
def isNumeric (s : List Char) : Bool := (s ≠ [] && s.all Char.isDigit) || (number? s).isSome

def parts (labels : List (List Char)) : List (List Char) :=
  if labels.getLast? = some [] then labels.dropLast else labels

def endsInNumber (labels : List (List Char)) : Bool := (parts labels).getLast?.any isNumeric

def ofNumbers? (numbers : List Nat) : Option Nat :=
  match numbers.reverse with
  | [] => none
  | last :: before =>
    if numbers.length ≤ 4 ∧ before.all (· < 256) ∧ last < Nat.pow 256 (4 - before.length) then
      some (before.reverse.foldl (fun n b => 256 * n + b) 0 * Nat.pow 256 (4 - before.length) + last)
    else none

def parse? (labels : List (List Char)) : Option Nat :=
  ((parts labels).mapM number?).bind ofNumbers?

end ShortLinks.Address.Ipv4
