import ShortLinks.Bytes
import ShortLinks.Unicode.Alphanumeric

/-!
# Single items of a pattern

A pattern is read in a mode, which says whether blanks count and what the characters stand for. An item is a
character, a class of characters or an edge; `length_item?_lt` says that reading one leaves less to read.
-/

set_option autoImplicit false

namespace ShortLinks.Journal.Pattern

structure Mode where
  ignoresCase : Bool
  unicode : Bool
  /-- Whether blanks and comments are passed over. -/
  spaced : Bool
deriving DecidableEq, Repr

namespace Mode

def initial : Mode := ⟨false, true, false⟩

/-- Switches what a flag stands for. The other flags make no difference to what is well formed. -/
def switch (m : Mode) (flag : Char) (on : Bool) : Mode :=
  if flag = 'i' then { m with ignoresCase := on }
  else if flag = 'u' then { m with unicode := on }
  else if flag = 'x' then { m with spaced := on }
  else m

/-- Whether letters of either case would have to be known. -/
def foldsCase (m : Mode) : Bool := m.ignoresCase && m.unicode

end Mode

def skipBlanks (inComment : Bool) : List Char → List Char
  | [] => []
  | c :: rest =>
    if inComment then skipBlanks (c != '\n') rest
    else if Unicode.isBlank c then skipBlanks false rest
    else if c = '#' then skipBlanks true rest
    else c :: rest

theorem length_skipBlanks_le (inComment : Bool) (s : List Char) : (skipBlanks inComment s).length ≤ s.length := by
  fun_induction skipBlanks inComment s <;> grind

def Mode.skip (m : Mode) (s : List Char) : List Char := if m.spaced then skipBlanks false s else s

theorem Mode.length_skip_le (m : Mode) (s : List Char) : (m.skip s).length ≤ s.length := by
  unfold Mode.skip
  split
  · exact length_skipBlanks_le false s
  · exact Nat.le_refl _

inductive Item where
  | literal (char : Char) (asByte : Bool)
  /-- Digits, blanks or letters, or all but these. -/
  | charClass (negated : Bool)
  | wordEdge
  | textEdge
deriving DecidableEq, Repr

def Item.isAllowed (m : Mode) : Item → Bool
  | .literal c asByte => !m.foldsCase && (m.unicode || !asByte || c.toNat < 128)
  | .charClass negated => !m.unicode && !negated
  | .wordEdge => !m.unicode
  | .textEdge => true

def Item.isAllowedInSet (m : Mode) : Item → Bool
  | .literal c _ => !m.foldsCase && (m.unicode || c.toNat < 128)
  | .charClass negated => !m.unicode && !negated
  | .wordEdge | .textEdge => false

def hexValue? (c : Char) : Option Nat := if c.toNat < 128 then Bytes.hexValue? (UInt8.ofNat c.toNat) else none

def hex? (m : Mode) : Nat → Nat → List Char → Option (Nat × List Char)
  | 0, value, s => some (value, s)
  | count + 1, value, s => match m.skip s with
    | [] => none
    | c :: rest => (hexValue? c).bind fun digit => hex? m count (16 * value + digit) rest

theorem length_hex?_le {m : Mode} {count value : Nat} {s rest : List Char} {n : Nat}
    (h : hex? m count value s = some (n, rest)) : rest.length ≤ s.length := by
  induction count generalizing value s with
  | zero => simp_all [hex?]
  | succ count ih =>
    have := m.length_skip_le s
    unfold hex? at h
    split at h
    · cases h
    · next c tail heq =>
      obtain ⟨digit, _, h⟩ := Option.bind_eq_some_iff.1 h
      have := ih h
      simp only [heq, List.length_cons] at *
      omega

def code? (m : Mode) (count : Nat) (s : List Char) : Option (Item × List Char) :=
  (hex? m count 0 s).bind fun (n, rest) =>
    if n.isValidChar then some (.literal (Char.ofNat n) (count = 2), rest) else none

def escaped? (c : Char) : Option Item :=
  if c ∈ ['d', 's', 'w'] then some (.charClass false)
  else if c ∈ ['D', 'S', 'W'] then some (.charClass true)
  else if c ∈ ['b', 'B', '<', '>'] then some .wordEdge
  else if c ∈ ['A', 'z'] then some .textEdge
  else if c = 'a' then some (.literal '\x07' false)
  else if c = 'f' then some (.literal '\x0c' false)
  else if c = 't' then some (.literal '\t' false)
  else if c = 'n' then some (.literal '\n' false)
  else if c = 'r' then some (.literal '\r' false)
  else if c = 'v' then some (.literal '\x0b' false)
  else if c.toNat < 128 && !c.isAlphanum then some (.literal c false)
  else none

def escape? (m : Mode) : List Char → Option (Item × List Char)
  | [] => none
  | c :: rest =>
    if c = 'x' then code? m 2 rest
    else if c = 'u' then code? m 4 rest
    else if c = 'U' then code? m 8 rest
    else (escaped? c).map fun item => (item, rest)

def item? (m : Mode) : List Char → Option (Item × List Char)
  | [] => none
  | c :: rest => if c = '\\' then escape? m rest else some (.literal c false, rest)

theorem length_code?_le {m : Mode} {count : Nat} {s rest : List Char} {i : Item}
    (h : code? m count s = some (i, rest)) : rest.length ≤ s.length := by
  obtain ⟨⟨n, tail⟩, hn, h⟩ := Option.bind_eq_some_iff.1 h
  have := length_hex?_le hn
  grind

theorem length_escape?_lt {m : Mode} {s rest : List Char} {i : Item} (h : escape? m s = some (i, rest)) :
    rest.length < s.length := by
  cases s with
  | nil => cases h
  | cons c tail =>
    have code_le (count : Nat) (h : code? m count tail = some (i, rest)) := length_code?_le h
    grind [escape?, Option.map_eq_some_iff]

theorem length_item?_lt {m : Mode} {s rest : List Char} {i : Item} (h : item? m s = some (i, rest)) :
    rest.length < s.length := by
  cases s with
  | nil => cases h
  | cons c tail =>
    have escape_lt (h : escape? m tail = some (i, rest)) := length_escape?_lt h
    grind [item?]

end ShortLinks.Journal.Pattern
