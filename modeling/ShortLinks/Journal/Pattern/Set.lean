import ShortLinks.Journal.Pattern.Item

/-!
# Sets of characters in a pattern

A set stands in brackets and holds characters, ranges, named sets and further sets, which may be cut with each
other. Reading one leaves less to read (`length_set?_lt`).
-/

set_option autoImplicit false

namespace ShortLinks.Journal.Pattern

def setNames : List String := ["alnum", "alpha", "ascii", "blank", "cntrl", "digit", "graph", "lower", "print",
  "punct", "space", "upper", "word", "xdigit"]

def setName? (s : List Char) : Option (List Char) :=
  match s.dropWhile (· != ':') with
  | ':' :: ']' :: rest => if String.ofList (s.takeWhile (· != ':')) ∈ setNames then some rest else none
  | _ => none

/-- Reads a named set from after its opening bracket on, and whether it is negated. -/
def namedSet? : List Char → Option (Bool × List Char)
  | ':' :: '^' :: rest => (setName? rest).map fun rest => (true, rest)
  | ':' :: rest => (setName? rest).map fun rest => (false, rest)
  | _ => none

theorem length_setName?_lt {s rest : List Char} (h : setName? s = some rest) : rest.length < s.length := by
  have := (List.dropWhile_sublist (· != ':') (l := s)).length_le
  unfold setName? at h
  split at h <;> grind

theorem length_namedSet?_lt {s rest : List Char} {negated : Bool} (h : namedSet? s = some (negated, rest)) :
    rest.length < s.length := by
  have name_lt {s : List Char} (h : setName? s = some rest) := length_setName?_lt h
  unfold namedSet? at h
  split at h <;> grind [Option.map_eq_some_iff]

def negation? (m : Mode) (s : List Char) : Option (List Char) :=
  match m.skip s with
  | '^' :: rest => if m.unicode then some (m.skip rest) else none
  | rest => some rest

def skipDashes (m : Mode) : List Char → List Char
  | [] => []
  | c :: rest => if c = '-' then skipDashes m (m.skip rest) else c :: rest
termination_by s => s.length
decreasing_by
  have := m.length_skip_le rest
  simp only [List.length_cons]
  omega

/-- Passes over the signs at the front of a set that stand for themselves there: dashes, or else a bracket. -/
def frontSigns (m : Mode) : List Char → List Char
  | ']' :: rest => rest
  | s => skipDashes m s

def openSet? (m : Mode) (s : List Char) : Option (List Char) :=
  (negation? m s).bind fun body =>
    if m.foldsCase && (frontSigns m body).length < body.length then none else some (frontSigns m body)

theorem length_negation?_le {m : Mode} {s rest : List Char} (h : negation? m s = some rest) :
    rest.length ≤ s.length := by
  have skip_le := m.length_skip_le
  unfold negation? at h
  split at h <;> grind

theorem length_skipDashes_le (m : Mode) (s : List Char) : (skipDashes m s).length ≤ s.length := by
  fun_induction skipDashes m s with
  | case1 => exact Nat.le_refl _
  | case2 rest ih =>
    have := m.length_skip_le rest
    simp only [List.length_cons]
    omega
  | case3 => exact Nat.le_refl _

theorem length_frontSigns_le (m : Mode) (s : List Char) : (frontSigns m s).length ≤ s.length := by
  unfold frontSigns
  split
  · simp
  · exact length_skipDashes_le m s

theorem length_openSet?_le {m : Mode} {s rest : List Char} (h : openSet? m s = some rest) :
    rest.length ≤ s.length := by
  obtain ⟨body, hb, h⟩ := Option.bind_eq_some_iff.1 h
  have := length_negation?_le hb
  have := length_frontSigns_le m body
  grind

def member? (m : Mode) (s : List Char) : Option (List Char) :=
  match item? m s with
  | none => none
  | some (first, rest) =>
    let next := m.skip rest
    let after := m.skip next.tail
    if next.head? != some '-' || after.head? == some ']' || after.head? == some '-' then
      if first.isAllowedInSet m then some rest else none
    else match first, item? m after with
      | .literal low _, some (.literal high asByte, rest) =>
        if low ≤ high && first.isAllowedInSet m && (Item.literal high asByte).isAllowedInSet m then some rest else none
      | _, _ => none

theorem length_member?_lt {m : Mode} {s rest : List Char} (h : member? m s = some rest) :
    rest.length < s.length := by
  unfold member? at h
  split at h
  · cases h
  · next first tail hfirst =>
    have first_lt := length_item?_lt hfirst
    have next_le := m.length_skip_le tail
    have tail_le : (m.skip tail).tail.length ≤ (m.skip tail).length := by simp
    have after_le := m.length_skip_le (m.skip tail).tail
    simp only at h
    split at h
    · grind
    · split at h
      · next low _ high asByte last hlast =>
        have last_lt := length_item?_lt hlast
        grind
      · cases h

/-- Reads a set up to its closing bracket; `depth` sets are open around it. -/
def set? (m : Mode) (depth : Nat) (s : List Char) : Option (List Char) :=
  match _hs : m.skip s with
  | [] => none
  | ']' :: rest => match depth with
    | 0 => some rest
    | depth + 1 => set? m depth rest
  | '[' :: rest => match _hn : namedSet? rest with
    | some (negated, rest) => if m.foldsCase || (negated && !m.unicode) then none else set? m depth rest
    | none => match _ho : openSet? m rest with
      | some rest => set? m (depth + 1) rest
      | none => none
  | '&' :: '&' :: rest | '-' :: '-' :: rest | '~' :: '~' :: rest => set? m depth rest
  | c :: rest => match _hm : member? m (c :: rest) with
    | some rest => set? m depth rest
    | none => none
termination_by s.length
decreasing_by all_goals
  have := m.length_skip_le s
  grind [→ length_namedSet?_lt, → length_openSet?_le, → length_member?_lt]

theorem length_set?_lt {m : Mode} {depth : Nat} {s rest : List Char} (h : set? m depth s = some rest) :
    rest.length < s.length := by
  have := m.length_skip_le
  fun_induction set? m depth s <;> grind [→ length_namedSet?_lt, → length_openSet?_le, → length_member?_lt]

end ShortLinks.Journal.Pattern
