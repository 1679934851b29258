import ShortLinks.Journal.Pattern

/-!
# Directives of a log filter

A directive such as `info`, `part=debug` or `part[work{id}]=warn` lets events through up to a level. It may ask
for a target, for a span and for a field, and for a value of the field. A text is taken apart sign by sign.
Blanks around it are passed over, but the pieces are cut out of the text with its blanks, at the places where
they would be without them.
-/

set_option autoImplicit false

namespace ShortLinks.Journal

/-- How detailed the events may be that a directive lets through: none at all, or up to a rank. -/
abbrev Threshold := Nat

def most : Threshold := 5

def isNumeral (s : List Char) : Option Nat :=
  let digits := match s with
    | '+' :: rest => rest
    | _ => s
  if digits ≠ [] ∧ digits.all Char.isDigit then some (digits.foldl (fun n c => 10 * n + (c.toNat - 48)) 0) else none

def threshold? (s : List Char) : Option Threshold :=
  match isNumeral s with
  | some n => if n ≤ most then some n else none
  | none =>
    let name := String.ofList (s.map Char.toLower)
    if name = "off" then some 0
    else if name = "" ∨ name = "error" then some 1
    else if name = "warn" then some 2
    else if name = "info" then some 3
    else if name = "debug" then some 4
    else if name = "trace" then some 5
    else none

structure FieldTest where
  name : List Char
  hasValue : Bool
deriving DecidableEq, Repr

structure Directive where
  target : Option (List Char)
  span : Option (List Char)
  fields : List FieldTest
  threshold : Threshold
deriving DecidableEq, Repr

def isDecimal (s : List Char) : Bool :=
  let whole := s.takeWhile Char.isDigit
  let (part, rest) := match s.dropWhile Char.isDigit with
    | '.' :: rest => (rest.takeWhile Char.isDigit, rest.dropWhile Char.isDigit)
    | rest => ([], rest)
  let isExponent : List Char → Bool
    | [] => true
    | c :: rest =>
      let digits := match rest with
        | '+' :: digits | '-' :: digits => digits
        | digits => digits
      (c == 'e' || c == 'E') && digits != [] && digits.all Char.isDigit
  (whole != [] || part != []) && isExponent rest

/-- A number with a plus sign, which is no pattern. Other numbers are patterns as well. -/
def isPositiveNumber : List Char → Bool
  | '+' :: rest => isDecimal rest || String.ofList (rest.map Char.toLower) ∈ ["inf", "infinity", "nan"]
  | _ => false

def FieldTest.read? (s : List Char) : Option FieldTest :=
  let name := s.takeWhile (· != '=')
  match s.dropWhile (· != '=') with
  | [] => if s = [] then none else some ⟨name, false⟩
  | _ :: rest =>
    let value := rest.takeWhile (· != '=')
    if isPositiveNumber value || Pattern.isWellFormed value then some ⟨name, true⟩ else none

/-- What is being read; a number says where it begins. -/
inductive Stage where
  | start
  | levelOrTarget (first : Nat)
  | span (first : Nat)
  | field (first : Nat)
  | fieldEnd
  | spanEnd
  | level (first : Nat)
deriving DecidableEq, Repr

structure Draft where
  stage : Stage
  found : Directive
deriving DecidableEq, Repr

def isDirectiveStart (c : Char) : Bool := c == '-' || c == ':' || c == '_' || Unicode.isAlphanumeric c

namespace Draft

def initial : Draft := ⟨.start, none, none, [], most⟩

def step (piece : Nat → Nat → Option (List Char)) (d : Draft) : Nat × Char → Option Draft
  | (n, c) => match d.stage with
    | .start =>
      if c = '[' then some { d with stage := .span (n + 1) }
      else if isDirectiveStart c then some { d with stage := .levelOrTarget n }
      else none
    | .levelOrTarget first =>
      if c = '=' then (piece first n).map fun target => ⟨.level (n + 1), { d.found with target }⟩
      else if c = '[' then (piece first n).map fun target => ⟨.span (n + 1), { d.found with target }⟩
      else some d
    | .span first =>
      if c = ']' then (piece first n).map fun span => ⟨.spanEnd, { d.found with span }⟩
      else if c = '\x7b' then
        (piece first n).map fun span => ⟨.field (n + 1), { d.found with span := if span = [] then none else some span }⟩
      else some d
    | .field first =>
      if c = '\x7d' then
        ((piece first n).bind FieldTest.read?).map fun field =>
          ⟨.fieldEnd, { d.found with fields := d.found.fields ++ [field] }⟩
      else some d
    | .fieldEnd => if c = ']' then some { d with stage := .spanEnd } else none
    | .spanEnd => if c = '=' then some { d with stage := .level (n + 1) } else none
    | .level _ => some d

/-- The directive at the end of the text. A text without an equals sign is a level, or else a target for which
everything is let through. -/
def finish (rest : Nat → Option (List Char)) (d : Draft) : Option Directive :=
  match d.stage with
  | .levelOrTarget first => (rest first).map fun s =>
    match if s = [] then some most else threshold? s with
    | some threshold => { d.found with threshold }
    | none => { d.found with target := s }
  | .level first => (rest first).bind fun s =>
    (if s = [] then some most else threshold? s).map fun threshold => { d.found with threshold }
  | .spanEnd => some d.found
  | _ => none

end Draft

/-- The signs of a text with the numbers of the bytes before them. -/
def positions (n : Nat) : List Char → List (Nat × Char)
  | [] => []
  | c :: rest => (n, c) :: positions (n + c.utf8Size) rest

def Directive.read? (s : List Char) : Option Directive :=
  let trimmed := ((s.dropWhile Unicode.isBlank).reverse.dropWhile Unicode.isBlank).reverse
  let bytes := Bytes.ofText (String.ofList s)
  let text (b : Bytes) : Option (List Char) := (Bytes.text? b).map String.toList
  ((positions 0 trimmed).foldlM (Draft.step fun first last => text ((bytes.drop first).take (last - first)))
    Draft.initial).bind (Draft.finish fun first => text (bytes.drop first))

end ShortLinks.Journal
