/-!
# Unsigned numbers

The written form of a setting that is a number: an optional plus sign and decimal digits, without
blanks, of a value below a bound.
-/

set_option autoImplicit false

namespace ShortLinks.Text.Unsigned

def value : List Char → Nat :=
  List.foldl (fun n c => 10 * n + (c.toNat - 48)) 0

def parse? (bound : Nat) (s : String) : Option Nat :=
  let digits := match s.toList with
    | '+' :: rest => rest
    | cs => cs
  if digits ≠ [] ∧ digits.all Char.isDigit ∧ value digits < bound then some (value digits) else none

def parse64? : String → Option Nat := parse? (Nat.pow 2 64)

def parse32? : String → Option Nat := parse? (Nat.pow 2 32)

end ShortLinks.Text.Unsigned
