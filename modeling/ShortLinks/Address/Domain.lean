import ShortLinks.Unicode.DomainTable
import ShortLinks.Unicode.Direction
import ShortLinks.Unicode.Joining
import ShortLinks.Unicode.Mark
import ShortLinks.Unicode.Normal
import ShortLinks.Address.Punycode

/-!
# Domain names

A domain name is mapped character by character, brought to its composed normal form and cut into
labels. Labels that begin with `xn--` are decoded. Every label then has to be well formed: it starts
with no mark, its joiners stand where a script needs them, it holds no character that is forbidden in a
domain, and, if the name is written from right to left anywhere, it keeps to one direction.
-/

set_option autoImplicit false

namespace ShortLinks.Address

open Unicode

abbrev Label := List Char

namespace Domain

def encodedLimit : Nat := 2000

def decodedLimit : Nat := 1000

def isForbiddenInHost (c : Char) : Bool :=
  c ∈ ['\x00', '\t', '\n', '\r', ' ', '#', '/', ':', '<', '>', '?', '@', '[', '\\', ']', '^', '|']

def isForbidden (c : Char) : Bool :=
  isForbiddenInHost c || c.toNat < 32 || c == '%' || c.toNat == 127

def mapChar? (c : Char) : Option (List Char) :=
  if DomainTable.disallowed.contains c then none
  else if DomainTable.ignored.contains c then some []
  else match DomainTable.replaced.find? c.toNat with
    | none => some [c]
    | some row => match row.value with
      | .constant points => some (points.map Char.ofNat)
      | .advancing start => some [Char.ofNat (start + (c.toNat - row.first))]
      | .alternating start =>
        if (c.toNat - row.first) % 2 = 0 then some [Char.ofNat (start + (c.toNat - row.first))] else some [c]

def map? (s : List Char) : Option (List Char) :=
  (s.mapM mapChar?).map fun pieces => normalize pieces.flatten

end Domain

namespace Label

def isAscii (s : Label) : Bool := s.all fun c => c.toNat < 128

def isEncoded (s : Label) : Bool := ['x', 'n', '-', '-'].isPrefixOf s

def isVirama (c : Char) : Bool := Normal.combiningClass c == 9

/-- The nearest character that is not transparent joins towards the joiner. -/
def joinsToward (side : JoiningType) (s : List Char) : Bool :=
  match s.dropWhile (fun c => joiningType? c == some .transparent) with
  | c :: _ => joiningType? c == some side || joiningType? c == some .dual
  | [] => false

/-- The zero-width joiner follows a virama; the non-joiner does so or stands between characters that
would join. `before` is held in reverse. -/
def joinersFit (before : List Char) : List Char → Bool
  | [] => true
  | c :: rest =>
    let afterVirama := before.head?.any isVirama
    let here :=
      if c == '\u200d' then afterVirama
      else if c == '\u200c' then afterVirama || (joinsToward .left before && joinsToward .right rest)
      else true
    here && joinersFit (c :: before) rest

def isRightToLeft (c : Char) : Bool :=
  direction c == .rightToLeft || direction c == .arabicLetter || direction c == .arabicNumber

def isNeutral (d : Direction) : Bool :=
  d == .europeanNumber || d == .europeanSeparator || d == .commonSeparator || d == .europeanTerminator ||
    d == .otherNeutral || d == .boundaryNeutral || d == .nonspacingMark

def keepsDirection (s : Label) : Bool :=
  let classes := s.map direction
  let last := (classes.reverse.dropWhile (· == .nonspacingMark)).head?
  match classes.head? with
  | none => true
  | some .leftToRight =>
    classes.all (fun d => d == .leftToRight || isNeutral d) &&
      (last == some .leftToRight || last == some .europeanNumber)
  | some first =>
    (first == .rightToLeft || first == .arabicLetter) &&
      classes.all (fun d => d == .rightToLeft || d == .arabicLetter || d == .arabicNumber || isNeutral d) &&
      (last == some .rightToLeft || last == some .arabicLetter || last == some .europeanNumber ||
        last == some .arabicNumber) &&
      !(classes.contains .europeanNumber && classes.contains .arabicNumber)

def isWellFormed (s : Label) : Bool :=
  !s.head?.any isMark && joinersFit [] s && s.all fun c => !Domain.isForbidden c

/-- The text of a label. An encoded label must decode to a text that holds more than ASCII and that
mapping leaves alone. -/
def text? (s : Label) : Option Label :=
  if s.isEncoded then do
    if !s.isAscii || Domain.encodedLimit < s.length - 4 then none
    let t ← Punycode.decode? (s.drop 4)
    if !isAscii t && t.length ≤ Domain.decodedLimit && Domain.map? t == some t && isWellFormed t then some t
    else none
  else if isWellFormed s && (s.isAscii || s.length ≤ Domain.decodedLimit) then some s
  else none

end Label

namespace Domain

def labels (s : List Char) : List Label :=
  s.foldr (fun c found => match found with
    | [] => [[c]]
    | label :: rest => if c == '.' then [] :: label :: rest else (c :: label) :: rest) [[]]

def parse? (s : List Char) : Option (List Label) := do
  let mapped ← map? s
  let found ← (labels mapped).mapM Label.text?
  if found.flatten.any Label.isRightToLeft && !found.all Label.keepsDirection then none else some found

end Domain
end ShortLinks.Address
