/-!
# Details

Structured details that go with an error: the values a client can be sent.
-/

set_option autoImplicit false

namespace ShortLinks

inductive Details where
  | null
  | boolean (value : Bool)
  /-- The number `mantissa / 10 ^ places`. -/
  | number (mantissa : Int) (places : Nat)
  | text (value : String)
  | list (items : List Details)
  | object (members : List (String × Details))
deriving Inhabited

namespace Details

def ofNat (n : Nat) : Details := .number n 0

def ofOption : Option String → Details
  | some value => .text value
  | none => .null

def reason (text : String) : Details := .object [("reason", .text text)]

end Details
end ShortLinks
