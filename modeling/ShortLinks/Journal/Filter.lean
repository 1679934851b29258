import ShortLinks.Event
import ShortLinks.Journal.Directive

/-!
# Log filters

A filter is a list of directives, separated by commas. The most specific directive that fits an event decides
whether it is written. A directive that names a span, or a field with a value, fits no event, as the service
has no spans.
-/

set_option autoImplicit false

namespace ShortLinks.Journal

structure Filter where
  directives : List Directive
deriving DecidableEq, Repr

def splitCommas : List Char → List (List Char)
  | [] => [[]]
  | c :: rest =>
    if c == ',' then [] :: splitCommas rest
    else match splitCommas rest with
      | piece :: more => (c :: piece) :: more
      | [] => [[c]]

def Filter.read? (text : String) : Option Filter :=
  (((splitCommas text.toList).filter (· != [])).mapM Directive.read?).map Filter.mk

/-- The filter a setting asks for; one that cannot be read is that for `info`. -/
def Filter.ofSetting (text : String) : Filter :=
  (Filter.read? text).getD ⟨[⟨none, none, [], 3⟩]⟩

namespace Directive

def isPlain (d : Directive) : Bool := d.span.isNone && d.fields.all fun f => !f.hasValue

def fits (d : Directive) (e : Event) : Bool :=
  d.isPlain && (d.target.getD []).isPrefixOf e.origin.name.toList &&
    d.fields.all fun f => (("message" :: e.fields.map Prod.fst).map String.toList).contains f.name

def targetWeight (d : Directive) : Nat :=
  match d.target with
  | none => 0
  | some target => (String.ofList target).utf8ByteSize + 1

/-- Whether `d` is more specific than `other`: by the length of its target, then by the number of its fields,
then by their names. Two directives that fit one event and have targets of one length have the same target. -/
def isMoreSpecific (d other : Directive) : Bool :=
  other.targetWeight < d.targetWeight || (other.targetWeight == d.targetWeight &&
    (other.fields.length < d.fields.length || (other.fields.length == d.fields.length &&
      other.fields.map FieldTest.name < d.fields.map FieldTest.name)))

end Directive

def mostSpecific? : List Directive → Option Directive
  | [] => none
  | d :: rest => match mostSpecific? rest with
    | none => some d
    | some best => if d.isMoreSpecific best then some d else some best

def Filter.letsThrough (f : Filter) (e : Event) : Bool :=
  if f.directives = [] then e.level.rank ≤ Level.error.rank
  else match mostSpecific? (f.directives.filter (·.fits e)) with
    | some d => e.level.rank ≤ d.threshold
    | none => false

end ShortLinks.Journal
