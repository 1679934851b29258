/-!
# Punycode

A label of plain letters, digits and hyphens that stands for any text. What precedes the last hyphen is
taken over; the rest is a row of numbers in base 36, each of which says where the next higher character
is put in. The thresholds between the digits of a number follow the sizes of those before it.
-/

set_option autoImplicit false

namespace ShortLinks.Address.Punycode

def digit? (c : Char) : Option Nat :=
  if 'a' ≤ c ∧ c ≤ 'z' then some (c.toNat - 97)
  else if '0' ≤ c ∧ c ≤ '9' then some (c.toNat - 48 + 26)
  else none

/-- The least digit that does not end a number at this place. -/
def threshold (place bias : Nat) : Nat :=
  if place ≤ bias then 1 else if bias + 26 ≤ place then 26 else place - bias

def damp (delta bias : Nat) : Nat :=
  if 455 < delta then damp (delta / 35) (bias + 36) else bias + 36 * delta / (delta + 38)
termination_by delta
decreasing_by exact Nat.div_lt_self (by omega) (by omega)

def adapt (delta size : Nat) (isFirst : Bool) : Nat :=
  let d := if isFirst then delta / 700 else delta / 2
  damp (d + d / size) 0

structure Progress where
  text : List Char
  code : Nat
  index : Nat
  bias : Nat
  /-- The part of the current number that has been read, and the weight and place of its next digit. -/
  delta : Nat
  weight : Nat
  place : Nat

def Progress.start (text : List Char) : Progress := ⟨text, 128, 0, 72, 0, 1, 36⟩

def char? (n : Nat) : Option Char := if n.isValidChar then some (Char.ofNat n) else none

def Progress.step (p : Progress) (c : Char) : Option Progress := do
  let d ← digit? c
  let delta := p.delta + d * p.weight
  let t := threshold p.place p.bias
  if d < t then
    let size := p.text.length + 1
    let code := p.code + (p.index + delta) / size
    let at_ := (p.index + delta) % size
    let new ← char? code
    return ⟨p.text.take at_ ++ new :: p.text.drop at_, code, at_ + 1, adapt delta size (p.index == 0), 0, 1, 36⟩
  else return { p with delta, weight := p.weight * (36 - t), place := p.place + 36 }

/-- What precedes the last hyphen, and what follows it. A hyphen in front of everything else cuts
nothing off. -/
def cutLastHyphen (s : List Char) : List Char × List Char :=
  let tail := (s.reverse.takeWhile (· != '-')).reverse
  match s.take (s.length - tail.length - 1) with
  | [] => ([], s)
  | plain => (plain, tail)

def decode? (s : List Char) : Option (List Char) := do
  let (plain, numbers) := cutLastHyphen s
  let p ← numbers.foldlM Progress.step (Progress.start plain)
  if p.place = 36 then some p.text else none

end ShortLinks.Address.Punycode
