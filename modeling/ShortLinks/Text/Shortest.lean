/-!
# Shortest decimals

The shortest decimal that reads back as a given binary number. A number `m · 2 ^ q` stands for every
real that rounds to it; on the grid of `n` significant digits the two neighbours of the number are
tried, for `n` from one upwards, and the first grid with a neighbour in that interval wins. Of two
neighbours the nearer one is taken, and an exact tie goes to the even one.
-/

set_option autoImplicit false

namespace ShortLinks.Text.Shortest

/-- A binary number `mantissa · 2 ^ exponent`. Its neighbour below is at half the usual distance when
`narrow` holds, which is so at a power of two. -/
structure Binary where
  mantissa : Nat
  exponent : Int
  narrow : Bool

structure Decimal where
  digits : Nat
  exponent : Int
deriving DecidableEq, Repr

structure Ratio where
  num : Nat
  den : Nat

namespace Ratio

def scale (r : Ratio) (base : Nat) (k : Int) : Ratio :=
  if 0 ≤ k then ⟨r.num * Nat.pow base k.toNat, r.den⟩ else ⟨r.num, r.den * Nat.pow base (-k).toNat⟩

def le (a b : Ratio) : Bool := a.num * b.den ≤ b.num * a.den

def lt (a b : Ratio) : Bool := a.num * b.den < b.num * a.den

def floor (r : Ratio) : Nat := r.num / r.den

end Ratio

/-- How many times `r` can be multiplied by ten before it reaches one, at most `fuel`. -/
def leadingZeros : Nat → Ratio → Nat
  | 0, _ => 0
  | fuel + 1, r => if r.num < r.den then leadingZeros fuel (r.scale 10 1) + 1 else 0

def magnitude (r : Ratio) : Int :=
  if r.num < r.den then 1 - (leadingZeros 400 r : Int) else ((Nat.toDigits 10 r.floor).length : Int)

/-- A neighbour of `b` on the grid of multiples of `10 ^ k`, if one reads back as `b`. -/
def onGrid (b : Binary) (k : Int) : Option Decimal :=
  let at_ (quarters : Nat) : Ratio := (Ratio.mk quarters 1).scale 2 (b.exponent - 2) |>.scale 10 (-k)
  let value := at_ (4 * b.mantissa)
  let low := at_ (4 * b.mantissa - (if b.narrow then 1 else 2))
  let high := at_ (4 * b.mantissa + 2)
  let inside (d : Nat) : Bool :=
    if b.mantissa % 2 = 0 then low.le ⟨d, 1⟩ && Ratio.le ⟨d, 1⟩ high
    else low.lt ⟨d, 1⟩ && Ratio.lt ⟨d, 1⟩ high
  let below := value.floor
  let above := below + 1
  let middle : Ratio := ⟨2 * below + 1, 2⟩
  let belowNearer := value.lt middle || (value.le middle && below % 2 = 0)
  match inside below, inside above with
  | true, true => some ⟨if belowNearer then below else above, k⟩
  | true, false => some ⟨below, k⟩
  | false, true => some ⟨above, k⟩
  | false, false => none

def trim : Nat → Decimal → Decimal
  | 0, d => d
  | fuel + 1, d =>
    if d.digits ≠ 0 ∧ d.digits % 10 = 0 then trim fuel ⟨d.digits / 10, d.exponent + 1⟩ else d

/-- The shortest decimal that reads back as the positive number `b`; seventeen digits always do. -/
def ofBinary (b : Binary) : Decimal :=
  let e := magnitude ((Ratio.mk b.mantissa 1).scale 2 b.exponent)
  let hit := (List.range 17).findSome? fun n => onGrid b (e - ((n + 1 : Nat) : Int))
  trim 20 (hit.getD ⟨b.mantissa, b.exponent⟩)

def binaryOfBits (bits : UInt64) : Binary :=
  let fraction : Nat := bits.toNat % Nat.pow 2 52
  let biased : Nat := bits.toNat / Nat.pow 2 52 % Nat.pow 2 11
  if biased = 0 then ⟨fraction, -1074, false⟩
  else ⟨Nat.pow 2 52 + fraction, (biased : Int) - 1075, fraction = 0 && 1 < biased⟩

def zeros (n : Nat) : String := String.ofList (List.replicate n '0')

def exponentText (n : Int) : String := if n < 0 then toString n else "+" ++ toString n

/-- Positional below `10 ^ 16` and from `10 ^ -5` on, with `.0` after a whole number; in exponent form
elsewhere. -/
def render (d : Decimal) : String :=
  let text := toString d.digits
  let size := text.length
  let point : Int := size + d.exponent
  if 0 ≤ d.exponent ∧ point ≤ 16 then text ++ zeros d.exponent.toNat ++ ".0"
  else if 0 < point ∧ point ≤ 16 then
    String.ofList (text.toList.take point.toNat) ++ "." ++ String.ofList (text.toList.drop point.toNat)
  else if -5 < point ∧ point ≤ 0 then "0." ++ zeros (-point).toNat ++ text
  else if size = 1 then text ++ "e" ++ exponentText (point - 1)
  else
    String.ofList (text.toList.take 1) ++ "." ++ String.ofList (text.toList.drop 1) ++ "e" ++
      exponentText (point - 1)

def text (x : Float) : String :=
  let bits := x.toBits
  let sign := if bits.toNat / Nat.pow 2 63 = 1 then "-" else ""
  let size := bits.toNat % Nat.pow 2 63
  sign ++ if size = 0 then "0.0" else render (ofBinary (binaryOfBits size.toUInt64))

end ShortLinks.Text.Shortest
