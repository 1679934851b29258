import Std.Data.HashMap
import ShortLinks.Unicode.Decomposition

/-!
# Composed normal form

A text is decomposed, its marks are put in the order of their classes, and what can be joined is joined
again. Syllables of Hangul are decomposed and joined by a formula.
-/

set_option autoImplicit false

namespace ShortLinks.Unicode.Normal

def combiningClass (c : Char) : Nat := (Decomposition.classes.value? c).getD 0

namespace Hangul

def syllables : Nat := 0xAC00
def leads : Nat := 0x1100
def vowels : Nat := 0x1161
def tails : Nat := 0x11A7
def leadCount : Nat := 19
def vowelCount : Nat := 21
def tailCount : Nat := 28

def isSyllable (n : Nat) : Bool := syllables ≤ n && n < syllables + leadCount * vowelCount * tailCount

def parts (n : Nat) : List Nat :=
  let i := n - syllables
  let body := [leads + i / (vowelCount * tailCount), vowels + i / tailCount % vowelCount]
  if i % tailCount = 0 then body else body ++ [tails + i % tailCount]

def join? (a b : Nat) : Option Nat :=
  if leads ≤ a ∧ a < leads + leadCount ∧ vowels ≤ b ∧ b < vowels + vowelCount then
    some (syllables + ((a - leads) * vowelCount + (b - vowels)) * tailCount)
  else if isSyllable a ∧ (a - syllables) % tailCount = 0 ∧ tails < b ∧ b < tails + tailCount then
    some (a + (b - tails))
  else none

end Hangul

def decomposeChar (c : Char) : List Char :=
  if Hangul.isSyllable c.toNat then (Hangul.parts c.toNat).map Char.ofNat
  else match Decomposition.parts.value? c with
    | some points => points.map Char.ofNat
    | none => [c]

/-- Puts a character in front of an ordered text: it passes the marks of a smaller class. -/
def place (c : Char) : List Char → List Char
  | [] => [c]
  | d :: rest =>
    if 0 < combiningClass d ∧ combiningClass d < combiningClass c then d :: place c rest
    else c :: d :: rest

def decompose (s : List Char) : List Char := (s.flatMap decomposeChar).foldr place []

def joined : Std.HashMap (Nat × Nat) Nat :=
  Decomposition.pairs.foldl (fun m row => match row.value with
    | [a, b] => m.insert (a, b) row.first
    | _ => m) ∅

def join? (a b : Char) : Option Char :=
  ((Hangul.join? a.toNat b.toNat).or (joined[(a.toNat, b.toNat)]?)).map Char.ofNat

/-- A text that is being joined. `done` and `marks` are held in reverse. -/
structure Joining where
  done : List Char
  starter : Option Char
  marks : List Char

def Joining.flush (j : Joining) : List Char := j.marks ++ j.starter.toList ++ j.done

/-- Joins a character to the starter before it, unless a mark of the same or a higher class stands
between them. -/
def Joining.next (j : Joining) (c : Char) : Joining :=
  let free := match j.marks with
    | [] => true
    | m :: _ => combiningClass m < combiningClass c
  match if free then j.starter.bind (join? · c) else none with
  | some t => { j with starter := some t }
  | none =>
    if combiningClass c = 0 then ⟨j.flush, some c, []⟩ else { j with marks := c :: j.marks }

def compose (s : List Char) : List Char :=
  (s.foldl Joining.next ⟨[], none, []⟩).flush.reverse

end Normal

def normalize (s : List Char) : List Char := Normal.compose (Normal.decompose s)

end ShortLinks.Unicode
