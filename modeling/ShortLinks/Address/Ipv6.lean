/-!
# IPv6 hosts

Eight pieces of up to four hexadecimal digits with colons between them. Two colons stand once for one or
more pieces of zero, and the last two pieces may be written as an IPv4 address.
-/

set_option autoImplicit false

namespace ShortLinks.Address.Ipv6

def hex? (c : Char) : Option Nat :=
  if c.isDigit then some (c.toNat - 48)
  else if 'a' ≤ c ∧ c ≤ 'f' then some (c.toNat - 87)
  else if 'A' ≤ c ∧ c ≤ 'F' then some (c.toNat - 55)
  else none

def readHex : Nat → Nat → List Char → Nat × List Char
  | 0, value, s => (value, s)
  | _ + 1, value, [] => (value, [])
  | n + 1, value, c :: s => match hex? c with
    | some d => readHex n (16 * value + d) s
    | none => (value, c :: s)

def byte? (s : List Char) : Option Nat :=
  let value := s.foldl (fun n c => 10 * n + (c.toNat - 48)) 0
  if s ≠ [] ∧ s.all Char.isDigit ∧ (s.head? ≠ some '0' ∨ s.length = 1) ∧ value < 256 then some value else none

def cutAtDots (s : List Char) : List (List Char) :=
  s.foldr (fun c pieces => match pieces with
    | [] => [[c]]
    | piece :: rest => if c == '.' then [] :: piece :: rest else (c :: piece) :: rest) [[]]

def dotted? (s : List Char) : Option (List Nat) :=
  match (cutAtDots s).mapM byte? with
  | some [a, b, c, d] => some [256 * a + b, 256 * c + d]
  | _ => none

/-- Pieces that have been read. The two colons take the place of one piece until the end is known. -/
structure Pieces where
  front : List Nat
  /-- The pieces after the two colons, if these have been met. -/
  back : Option (List Nat)

def Pieces.count (p : Pieces) : Nat := p.front.length + (p.back.map fun b => b.length + 1).getD 0

def Pieces.push (p : Pieces) (piece : Nat) : Pieces := match p.back with
  | none => { p with front := p.front ++ [piece] }
  | some b => { p with back := some (b ++ [piece]) }

def Pieces.full? (p : Pieces) : Option (List Nat) := match p.back with
  | none => if p.front.length = 8 then some p.front else none
  | some b => some (p.front ++ List.replicate (8 - p.front.length - b.length) 0 ++ b)

theorem readHex_rest_length (n value : Nat) (s : List Char) : (readHex n value s).2.length ≤ s.length := by
  induction n generalizing value s with
  | zero => exact Nat.le_refl _
  | succ n ih =>
    cases s with
    | nil => exact Nat.le_refl _
    | cons c s =>
      simp only [readHex]
      split
      · exact Nat.le_succ_of_le (ih _ s)
      · exact Nat.le_refl _

def read? (p : Pieces) (s : List Char) : Option Pieces :=
  match s with
  | [] => some p
  | c :: t =>
    if p.count = 8 then none
    else if c = ':' then
      if p.back.isSome then none else read? { p with back := some [] } t
    else
      let taken := readHex 4 0 (c :: t)
      match _h : taken.2 with
      | [] => some (p.push taken.1)
      | '.' :: _ =>
        if p.count ≤ 6 then (dotted? (c :: t)).map fun last => last.foldl Pieces.push p else none
      | ':' :: rest => if rest = [] then none else read? (p.push taken.1) rest
      | _ :: _ => none
termination_by s.length
decreasing_by
  · simp
  · have hle := readHex_rest_length 4 0 (c :: t)
    have hrest : (readHex 4 0 (c :: t)).2.length = rest.length + 1 := by
      rw [show (readHex 4 0 (c :: t)).2 = ':' :: rest from _h]; rfl
    simp only [List.length_cons] at hle ⊢
    omega

def parse? : List Char → Option (List Nat)
  | ':' :: ':' :: s => (read? ⟨[], some []⟩ s).bind Pieces.full?
  | ':' :: _ => none
  | s => if s.length < 2 then none else (read? ⟨[], none⟩ s).bind Pieces.full?

end ShortLinks.Address.Ipv6
