import ShortLinks.Bytes

/-!
# Percent signs

A percent sign and two hexadecimal digits stand for a byte; any other percent sign stands for itself.
-/

set_option autoImplicit false

namespace ShortLinks.Address.Percent

def decode : Bytes → Bytes
  | 37 :: a :: b :: rest =>
    match Bytes.hexValue? a, Bytes.hexValue? b with
    | some x, some y => UInt8.ofNat (16 * x + y) :: decode rest
    | _, _ => 37 :: decode (a :: b :: rest)
  | c :: rest => c :: decode rest
  | [] => []

def text? (s : List Char) : Option String := Bytes.text? (decode (Bytes.ofText (String.ofList s)))

end ShortLinks.Address.Percent
