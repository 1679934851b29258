/-!
# Tables of code points

Properties of characters are written as rows of code points in hexadecimal, in ascending order and
separated by blanks: `41` for one code point, `41-5A` for a range. A row may carry a value after an
equals sign. A look-up halves the table until one row is left.
-/

set_option autoImplicit false

namespace ShortLinks.Unicode

structure Row (α : Type) where
  first : Nat
  last : Nat
  value : α
deriving Repr, Inhabited

/-- Rows in ascending order that do not overlap. -/
abbrev CodeTable (α : Type) := Array (Row α)

namespace CodeTable

variable {α : Type}

/-- How many rows start at or before `c`, given that those before `low` do and those from `high` on do
not. -/
def startsUpTo (t : CodeTable α) (c low high : Nat) : Nat :=
  if low < high then
    let middle := (low + high) / 2
    match t[middle]? with
    | some row =>
      if row.first ≤ c then startsUpTo t c (middle + 1) high else startsUpTo t c low middle
    | none => low
  else low
termination_by high - low

def find? (t : CodeTable α) (c : Nat) : Option (Row α) :=
  match startsUpTo t c 0 t.size with
  | 0 => none
  | n + 1 => t[n]?.filter fun row => c ≤ row.last

def contains (t : CodeTable α) (c : Char) : Bool := (t.find? c.toNat).isSome

def value? (t : CodeTable α) (c : Char) : Option α := (t.find? c.toNat).map Row.value

end CodeTable

def words (s : String) : List String :=
  let isBlank (c : Char) : Bool := c == ' ' || c == '\n'
  let close (word : List Char) (found : List String) : List String :=
    if word = [] then found else String.ofList word :: found
  let (word, found) := s.toList.foldr (fun c (word, found) =>
    if isBlank c then ([], close word found) else (c :: word, found)) (([], []) : List Char × List String)
  close word found

def cut (mark : Char) (s : List Char) : List (List Char) :=
  s.foldr (fun c pieces => match pieces with
    | [] => if c == mark then [[], []] else [[c]]
    | piece :: rest => if c == mark then [] :: piece :: rest else (c :: piece) :: rest) [[]]

def hexDigit (c : Char) : Nat :=
  if c.isDigit then c.toNat - 48 else c.toNat - 55

def hex (s : List Char) : Nat := s.foldl (fun n c => 16 * n + hexDigit c) 0

/-- Reads a row of a table; `value` reads what stands after the equals sign. -/
def Row.read {α : Type} (value : List Char → α) (s : String) : Row α :=
  let pieces := cut '=' s.toList
  let ends := (cut '-' (pieces.headD [])).map hex
  ⟨ends.headD 0, ends.getLastD 0, value (pieces.tail.headD [])⟩

def CodeTable.read {α : Type} (value : List Char → α) (s : String) : CodeTable α :=
  ((words s).map (Row.read value)).toArray

def CodeTable.readSet (s : String) : CodeTable Unit := CodeTable.read (fun _ => ()) s

def readPoints (s : List Char) : List Nat :=
  if s = [] then [] else (cut '.' s).map hex

end ShortLinks.Unicode
