import ShortLinks.Settings.Environment
import ShortLinks.Unicode.Alphanumeric

/-!
# Files of defaults

A file of defaults sets variables that the environment leaves open, one on each line: `NAME=value`, with
`export` before it or not. A value may be quoted in whole or in part, and may refer to other variables by a
dollar sign. Single quotes keep everything as it is; a comment starts at a number sign after a blank. Reading
stops at the first line that makes no sense, and what was set before stays.
-/

set_option autoImplicit false

namespace ShortLinks.Settings.Defaults

inductive Mode where
  | plain
  | afterBlank
  | escape
  | single
  | singleEscape
  | double
  | doubleEscape
  | comment
deriving DecidableEq, Repr

def Mode.next : Mode → Char → Mode
  | .comment, _ => .comment
  | .escape, _ => .plain
  | .doubleEscape, _ => .double
  | .singleEscape, _ => .single
  | .double, c => if c == '\\' then .doubleEscape else if c == '"' then .plain else .double
  | .single, c => if c == '\\' then .singleEscape else if c == '\'' then .plain else .single
  | mode, c =>
    if mode == .afterBlank && c == '#' then .comment
    else if mode == .plain && Unicode.isBlank c && c != '\n' && c != '\r' then .afterBlank
    else if c == '\\' then .escape
    else if c == '"' then .double
    else if c == '\'' then .single
    else .plain

/-- Reads a line on from `mode`: the mode it ends in, and what of it comes before a comment. -/
def scan (mode : Mode) : List Char → Mode × List Char
  | [] => (mode, [])
  | c :: rest => match mode.next c with
    | .comment => (.comment, [])
    | next =>
      let (last, kept) := scan next rest
      (last, c :: kept)

def dropLineEnd (line : List Char) : List Char :=
  match line.reverse with
  | '\n' :: '\r' :: rest => rest.reverse
  | '\n' :: rest => rest.reverse
  | _ => line

/-- Joins lines whose quotes are still open with those after them. `none` in the list stands for what cannot
be read, after which nothing more is. -/
def logicalLines (pending : List Char) (mode : Mode) : List Bytes → List (Option (List Char))
  | [] => if mode == .plain then [] else [none]
  | line :: rest => match Bytes.text? line with
    | none => [none]
    | some text =>
      let whole := pending ++ text.toList
      if (whole.dropWhile Unicode.isBlank).head? = some '#' then some [] :: logicalLines [] .plain rest
      else match scan mode text.toList with
        | (.comment, kept) => some (pending ++ kept) :: logicalLines [] .plain rest
        | (.plain, _) => some (dropLineEnd whole) :: logicalLines [] .plain rest
        | (mode, _) => logicalLines whole mode rest

/-- What variables stand for: the environment first, then what earlier lines have set. -/
structure Known where
  environment : Environment
  earlier : List (String × String)

def Known.value (known : Known) (name : List Char) : List Char :=
  let name := String.ofList name
  match known.environment.text? name with
  | some text => text.toList
  | none => ((known.earlier.lookup name).getD "").toList

inductive Reference where
  | none
  | bare (name : List Char)
  | braced (name : List Char)
deriving DecidableEq, Repr

structure Reading where
  single : Bool
  double : Bool
  escaped : Bool
  /-- Whether only blanks or a comment may follow. -/
  ended : Bool
  reference : Reference
  output : List Char

def Reading.start : Reading := ⟨false, false, false, false, .none, []⟩

def Reading.push (r : Reading) (cs : List Char) : Reading := { r with output := r.output ++ cs }

def isInlineBlank (c : Char) : Bool := c == ' ' || c == '\t'

def escaped? (c : Char) : Option Char :=
  if c == '\\' || c == '\'' || c == '"' || c == '$' || c == ' ' then some c
  else if c == 'n' then some '\n'
  else none

def referenceStep (known : Known) (r : Reading) (c : Char) : Reading :=
  match r.reference with
  | .none => r
  | .bare name =>
    if Unicode.isAlphanumeric c then { r with reference := .bare (name ++ [c]) }
    else if c == '\x7b' && name == [] then { r with reference := .braced [] }
    else
      let r := r.push (known.value name)
      if c == '$' then { r with reference := .bare [] } else { r.push [c] with reference := .none }
  | .braced name =>
    if Unicode.isAlphanumeric c || c != '\x7d' then { r with reference := .braced (name ++ [c]) }
    else { r.push (known.value name) with reference := .none }

def plainStep (r : Reading) (c : Char) : Reading :=
  if c == '$' then { r with reference := .bare [] }
  else if r.double then
    if c == '"' then { r with double := false }
    else if c == '\\' then { r with escaped := true }
    else r.push [c]
  else if c == '\'' then { r with single := true }
  else if c == '"' then { r with double := true }
  else if c == '\\' then { r with escaped := true }
  else if isInlineBlank c then { r with ended := true }
  else r.push [c]

def readValue (known : Known) (r : Reading) : List Char → Option Reading
  | [] => some r
  | c :: rest =>
    if r.ended then
      if isInlineBlank c then readValue known r rest
      else if c == '#' then some r
      else none
    else if r.escaped then
      match escaped? c with
      | some e => readValue known { r.push [e] with escaped := false } rest
      | none => none
    else if r.single then
      if c == '\'' then readValue known { r with single := false } rest else readValue known (r.push [c]) rest
    else if r.reference != .none then readValue known (referenceStep known r c) rest
    else readValue known (plainStep r c) rest

def value? (known : Known) (text : List Char) : Option (List Char) :=
  match readValue known Reading.start text with
  | none => none
  | some r =>
    if r.single || r.double then none
    else match r.reference with
      | .braced _ => none
      | .bare name => some (r.output ++ known.value name)
      | .none => some (r.output ++ known.value [])

def isNameStart (c : Char) : Bool := c.isAlpha || c == '_'

def isNameChar (c : Char) : Bool := c.isAlphanum || c == '_' || c == '.'

/-- A name in front, and what follows it and the blanks after it. -/
def name? (s : List Char) : Option (List Char × List Char) :=
  if s.head?.any isNameStart then
    some (s.takeWhile isNameChar, (s.dropWhile isNameChar).dropWhile Unicode.isBlank)
  else none

/-- The name and the value's text of an assignment. `export` is a name only if an equals sign follows. -/
def split? (s : List Char) : Option (List Char × List Char) :=
  match name? s with
  | none => none
  | some (name, '=' :: rest) => some (name, rest.dropWhile Unicode.isBlank)
  | some (name, rest) =>
    if name = "export".toList then match name? rest with
      | some (name, '=' :: rest) => some (name, rest.dropWhile Unicode.isBlank)
      | _ => none
    else none

def assignment? (known : Known) (line : List Char) : Option (Option (String × String)) :=
  let text := ((line.reverse.dropWhile Unicode.isBlank).reverse).dropWhile Unicode.isBlank
  if text = [] ∨ text.head? = some '#' then some none
  else match split? text with
    | none => none
    | some (name, rest) =>
      if rest = [] ∨ rest.head? = some '#' then some (some (String.ofList name, ""))
      else (value? known rest).map fun value => some (String.ofList name, String.ofList value)

/-- Takes the lines in order; a variable that has a text keeps it. -/
def applyLines (known : Known) : List (Option (List Char)) → Environment
  | [] => known.environment
  | none :: _ => known.environment
  | some line :: rest => match assignment? known line with
    | none => known.environment
    | some none => applyLines known rest
    | some (some (name, value)) =>
      let environment :=
        if (known.environment.text? name).isSome then known.environment
        else known.environment.set name (Bytes.ofText value)
      applyLines ⟨environment, (name, value) :: known.earlier⟩ rest

def dropByteOrderMark : Bytes → Bytes
  | 0xEF :: 0xBB :: 0xBF :: rest => rest
  | content => content

def fill (env : Environment) (content : Bytes) : Environment :=
  applyLines ⟨env, []⟩ (logicalLines [] .plain (Bytes.lines (dropByteOrderMark content)))

end ShortLinks.Settings.Defaults
