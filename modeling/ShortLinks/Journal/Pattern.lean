import ShortLinks.Journal.Pattern.Set

/-!
# Patterns

A log filter may ask for a field whose value has a pattern. The service only has to tell the patterns that
are well formed from those that are not. A text is read from left to right; groups change how the characters
in them are read, and what was in force before a group is in force again behind it.

No tables of letters stand behind patterns: classes such as digits, and letters of either case, can be asked
for only where characters are read as bytes. Bounds in braces do not occur, because a brace ends a field.
-/

set_option autoImplicit false

namespace ShortLinks.Journal.Pattern

structure Reading where
  mode : Mode
  /-- What was in force before each group that is open, the innermost first. -/
  enclosing : List Mode
  repeatable : Bool
  names : List (List Char)
deriving DecidableEq, Repr

namespace Reading

def initial : Reading := ⟨.initial, [], false, []⟩

def openGroup (r : Reading) (mode : Mode) : Reading :=
  { r with mode, enclosing := r.mode :: r.enclosing, repeatable := false }

end Reading

/-- Reads flags up to a colon or a closing parenthesis. Each flag stands once, and a minus has flags behind
it. The answer tells the mode, whether the flags are for a group, and whether there are any. -/
def flags? (m : Mode) (seen : List Char) (negated dangling : Bool) :
    List Char → Option ((Mode × Bool × Bool) × List Char)
  | [] => none
  | c :: rest =>
    if c = ':' || c = ')' then if dangling then none else some ((m, c = ':', seen != []), rest)
    else if c = '-' then if negated then none else flags? m seen true true rest
    else if c ∈ ['i', 'm', 's', 'U', 'u', 'R', 'x'] && c ∉ seen then
      flags? (m.switch c !negated) (c :: seen) negated false rest
    else none

theorem length_flags?_lt {m : Mode} {seen : List Char} {negated dangling : Bool} {s rest : List Char}
    {found : Mode × Bool × Bool} (h : flags? m seen negated dangling s = some (found, rest)) :
    rest.length < s.length := by
  fun_induction flags? m seen negated dangling s <;> grind

def isNameStart (c : Char) : Bool := c == '_' || (Unicode.isAlphanumeric c && !c.isDigit)

def isNamePart (c : Char) : Bool := c == '_' || c == '.' || c == '[' || c == ']' || Unicode.isAlphanumeric c

def groupName? (s : List Char) : Option (List Char × List Char) :=
  match s.takeWhile isNamePart, s.dropWhile isNamePart with
  | c :: name, '>' :: rest => if isNameStart c then some (c :: name, rest) else none
  | _, _ => none

theorem length_groupName?_lt {s rest name : List Char} (h : groupName? s = some (name, rest)) :
    rest.length < s.length := by
  have := (List.dropWhile_sublist isNamePart (l := s)).length_le
  unfold groupName? at h
  split at h <;> grind

def Reading.named? (r : Reading) (s : List Char) : Option (Reading × List Char) :=
  (groupName? s).bind fun (name, rest) =>
    if r.names.contains name then none else some ({ r.openGroup r.mode with names := name :: r.names }, rest)

/-- Reads what follows an opening parenthesis: a group opens, or flags change the mode from here on. -/
def Reading.opening? (r : Reading) : List Char → Option (Reading × List Char)
  | '?' :: 'P' :: '<' :: rest | '?' :: '<' :: rest => r.named? rest
  | '?' :: rest => (flags? r.mode [] false false rest).bind fun ((mode, isGroup, hasFlags), rest) =>
    if isGroup then some (r.openGroup mode, rest)
    else if hasFlags then some ({ r with mode, repeatable := false }, rest)
    else none
  | rest => some (r.openGroup r.mode, rest)

theorem Reading.length_named?_lt {r after : Reading} {s rest : List Char} (h : r.named? s = some (after, rest)) :
    rest.length < s.length := by
  obtain ⟨⟨name, tail⟩, hn, h⟩ := Option.bind_eq_some_iff.1 h
  have := length_groupName?_lt hn
  grind

theorem Reading.length_opening?_le {r after : Reading} {s rest : List Char}
    (h : r.opening? s = some (after, rest)) : rest.length ≤ s.length := by
  unfold Reading.opening? at h
  split at h
  · have := r.length_named?_lt h
    grind
  · have := r.length_named?_lt h
    grind
  · obtain ⟨⟨⟨mode, isGroup, hasFlags⟩, tail⟩, hf, h⟩ := Option.bind_eq_some_iff.1 h
    have := length_flags?_lt hf
    grind
  · grind

def Reading.accepts (r : Reading) (s : List Char) : Bool :=
  match _hs : r.mode.skip s with
  | [] => r.enclosing.isEmpty
  | '(' :: rest => match _ho : r.opening? (r.mode.skip rest) with
    | some (next, after) => next.accepts after
    | none => false
  | ')' :: rest => match r.enclosing with
    | mode :: enclosing => { r with mode, enclosing, repeatable := true : Reading }.accepts rest
    | [] => false
  | '|' :: rest => { r with repeatable := false }.accepts rest
  | '[' :: rest => match _ho : openSet? r.mode rest with
    | some body => match _hb : set? r.mode 0 body with
      | some after => { r with repeatable := true }.accepts after
      | none => false
    | none => false
  | '?' :: rest | '*' :: rest | '+' :: rest => r.repeatable && r.accepts rest
  | '\x7b' :: _ => false
  | '.' :: rest => r.mode.unicode && { r with repeatable := true }.accepts rest
  | '^' :: rest | '$' :: rest => { r with repeatable := true }.accepts rest
  | c :: rest => match _hi : item? r.mode (c :: rest) with
    | some (item, after) => item.isAllowed r.mode && { r with repeatable := true }.accepts after
    | none => false
termination_by s.length
decreasing_by all_goals
  have := r.mode.length_skip_le s
  have skip_le (rest : List Char) := r.mode.length_skip_le rest
  grind [→ Reading.length_opening?_le, → length_openSet?_le, → length_set?_lt, → length_item?_lt]

def isWellFormed (s : List Char) : Bool := Reading.initial.accepts s

end ShortLinks.Journal.Pattern
