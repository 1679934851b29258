import ShortLinks.Bytes

/-!
# Where text breaks off

Bytes that are no UTF-8 have a first byte that belongs to no character. A fault says where it is, and how many
bytes looked like the start of a character, unless the bytes just end too early.
-/

set_option autoImplicit false

namespace ShortLinks.Text.Utf8

structure Fault where
  index : Nat
  /-- `none` if more bytes could have made a character. -/
  length : Option Nat
deriving DecidableEq, Repr

def Fault.message (f : Fault) : String :=
  match f.length with
  | some n => s!"invalid utf-8 sequence of {n} bytes from index {f.index}"
  | none => s!"incomplete utf-8 byte sequence from index {f.index}"

/-- The second bytes that may follow a first byte, and how many bytes come after the second. -/
def secondBytes? (first : UInt8) : Option (UInt8 × UInt8 × Nat) :=
  if 0xC2 ≤ first && first ≤ 0xDF then some (0x80, 0xBF, 0)
  else if first == 0xE0 then some (0xA0, 0xBF, 1)
  else if first == 0xED then some (0x80, 0x9F, 1)
  else if 0xE1 ≤ first && first ≤ 0xEF then some (0x80, 0xBF, 1)
  else if first == 0xF0 then some (0x90, 0xBF, 2)
  else if 0xF1 ≤ first && first ≤ 0xF3 then some (0x80, 0xBF, 2)
  else if first == 0xF4 then some (0x80, 0x8F, 2)
  else none

def following (low high : UInt8) : Nat → Bytes → Option Nat
  | _, [] => none
  | more, b :: rest =>
    if low ≤ b && b ≤ high then
      match more with
      | 0 => some 1
      | more + 1 => (following 0x80 0xBF more rest).map (· + 1)
    else some 0

def leading (first : UInt8) (rest : Bytes) : Except (Option Nat) Nat :=
  if first < 0x80 then .ok 1
  else match secondBytes? first with
    | none => .error (some 1)
    | some (low, high, more) => match following low high more rest with
      | none => .error none
      | some n => if n = more + 1 then .ok (n + 1) else .error (some (n + 1))

/-- The first fault from position `index` on; `skip` bytes in front belong to a character that has been seen. -/
def faultFrom (index skip : Nat) : Bytes → Option Fault
  | [] => none
  | b :: rest => match skip with
    | skip + 1 => faultFrom (index + 1) skip rest
    | 0 => match leading b rest with
      | .ok n => faultFrom (index + 1) (n - 1) rest
      | .error length => some ⟨index, length⟩

def fault? (b : Bytes) : Option Fault := faultFrom 0 0 b

def soundLength (b : Bytes) : Nat := ((fault? b).map Fault.index).getD b.length

def replacement : Char := '\uFFFD'

/-- Bytes in which every fault stands for a sign of its own; `skip` bytes in front belong to one that is
there already. -/
def mendFrom (skip : Nat) : Bytes → Bytes
  | [] => []
  | b :: rest => match skip with
    | skip + 1 => mendFrom skip rest
    | 0 => match leading b rest with
      | .ok n => (b :: rest).take n ++ mendFrom (n - 1) rest
      | .error (some n) => Bytes.ofText (String.singleton replacement) ++ mendFrom (n - 1) rest
      | .error none => Bytes.ofText (String.singleton replacement)

def mended (b : Bytes) : String := (Bytes.text? (mendFrom 0 b)).getD ""

end ShortLinks.Text.Utf8
