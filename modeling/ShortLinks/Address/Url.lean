import ShortLinks.Address.Domain
import ShortLinks.Address.Ipv4
import ShortLinks.Address.Ipv6
import ShortLinks.Address.Percent

/-!
# Absolute URLs

A URL is read in the way browsers read it: blanks and controls at its ends and line breaks anywhere are
dropped, the scheme decides how the host is read, and neither path, query nor fragment can be wrong.
`Url.parse` says what scheme, user information, host and port an absolute URL has, or why it is none.
-/

set_option autoImplicit false

namespace ShortLinks.Address

inductive UrlError where
  | relativeWithoutBase
  | emptyHost
  | invalidPort
  | invalidIpv4
  | invalidIpv6
  | invalidDomain
  | invalidDomainCharacter
deriving DecidableEq, Repr

def UrlError.message : UrlError → String
  | .relativeWithoutBase => "relative URL without a base"
  | .emptyHost => "empty host"
  | .invalidPort => "invalid port number"
  | .invalidIpv4 => "invalid IPv4 address"
  | .invalidIpv6 => "invalid IPv6 address"
  | .invalidDomain => "invalid international domain name"
  | .invalidDomainCharacter => "invalid domain character"

inductive Host where
  | domain (labels : List Label)
  | ipv4 (address : Nat)
  | ipv6 (pieces : List Nat)
  /-- The host of a scheme without rules for hosts, as it is written. -/
  | opaqueText (text : List Char)
deriving DecidableEq, Repr

/-- Whether nothing is written for the host. A name is written as its labels with dots between them. -/
def Host.isEmpty : Host → Bool
  | .domain labels => (['.'].intercalate labels).isEmpty
  | .opaqueText text => text.isEmpty
  | .ipv4 _ | .ipv6 _ => false

inductive SchemeKind where
  /-- Local files: a host may be missing, and there is no port. -/
  | file
  | network
  | other
deriving DecidableEq, Repr

structure Url where
  scheme : List Char
  username : List Char
  password : List Char
  host : Option Host
  port : Option Nat
  rest : List Char
deriving DecidableEq, Repr

namespace Url

def clean (s : List Char) : List Char :=
  let isOuter (c : Char) : Bool := c.toNat ≤ 32
  let isBreak (c : Char) : Bool := c == '\t' || c == '\n' || c == '\r'
  (((s.dropWhile isOuter).reverse.dropWhile isOuter).reverse).filter fun c => !isBreak c

def isAlpha (c : Char) : Bool := ('a' ≤ c && c ≤ 'z') || ('A' ≤ c && c ≤ 'Z')

def isSchemeChar (c : Char) : Bool := isAlpha c || c.isDigit || c == '+' || c == '-' || c == '.'

def scheme? (s : List Char) : Option (List Char × List Char) :=
  match s.head?, s.dropWhile isSchemeChar with
  | some c, ':' :: rest =>
    if isAlpha c then some ((s.takeWhile isSchemeChar).map Char.toLower, rest) else none
  | _, _ => none

def kind (scheme : List Char) : SchemeKind :=
  if scheme = "file".toList then .file
  else if scheme ∈ ["http".toList, "https".toList, "ws".toList, "wss".toList, "ftp".toList] then .network
  else .other

def isSlash (c : Char) : Bool := c == '/' || c == '\\'

/-- Whether `c` ends the authority: a backslash does so where it stands for a slash. -/
def endsAuthority (kind : SchemeKind) (c : Char) : Bool :=
  c == '/' || c == '?' || c == '#' || (kind != .other && c == '\\')

def parseHost (s : List Char) : Except UrlError Host :=
  match s with
  | '[' :: inner =>
    if inner.getLast? = some ']' then
      match Ipv6.parse? inner.dropLast with
      | some pieces => .ok (.ipv6 pieces)
      | none => .error .invalidIpv6
    else .error .invalidIpv6
  | _ =>
    match (Percent.text? s).bind fun t => Domain.parse? t.toList with
    | none => .error .invalidDomain
    | some labels =>
      if labels = [[]] then .error .emptyHost
      else if Ipv4.endsInNumber labels then
        match Ipv4.parse? labels with
        | some address => .ok (.ipv4 address)
        | none => .error .invalidIpv4
      else .ok (.domain labels)

def parseOpaqueHost (s : List Char) : Except UrlError Host :=
  match s with
  | '[' :: _ => parseHost s
  | _ => if s.any Domain.isForbiddenInHost then .error .invalidDomainCharacter else .ok (.opaqueText s)

/-- The host in front of the port: a colon between brackets belongs to the host. -/
def splitHost (kind : SchemeKind) (inBrackets : Bool) : List Char → List Char × List Char
  | [] => ([], [])
  | c :: s =>
    if (c == ':' && !inBrackets) || endsAuthority kind c then ([], c :: s)
    else
      let (host, rest) := splitHost kind (c == '[' || (inBrackets && c != ']')) s
      (c :: host, rest)

def digitsValue (s : List Char) : Nat := s.foldl (fun n c => 10 * n + (c.toNat - 48)) 0

def parsePort (s : List Char) : Except UrlError (Option Nat × List Char) :=
  let digits := s.takeWhile Char.isDigit
  let rest := s.dropWhile Char.isDigit
  if 65536 ≤ digitsValue digits ∨ rest.head?.any (fun c => !(isSlash c || c == '?' || c == '#')) then
    .error .invalidPort
  else .ok (if digits = [] then none else some (digitsValue digits), rest)

/-- User information ends at the last at sign of the authority. -/
def splitUserInfo (kind : SchemeKind) (s : List Char) : Option (List Char) × List Char :=
  let authority := s.takeWhile fun c => !endsAuthority kind c
  let host := (authority.reverse.takeWhile (· != '@')).reverse
  if host.length = authority.length then (none, s)
  else
    let size := authority.length - host.length
    (some (s.take (size - 1)), s.drop size)

def parseAuthority (scheme : List Char) (kind : SchemeKind) (s : List Char) : Except UrlError Url := do
  let (userInfo, s) := splitUserInfo kind s
  if userInfo = some [] ∧ s.head?.any (endsAuthority kind) then throw .emptyHost
  let credentials := userInfo.getD []
  let username := credentials.takeWhile (· != ':')
  let password := (credentials.dropWhile (· != ':')).tail
  let (name, s) := splitHost kind false s
  if kind = .network ∧ name = [] then throw .emptyHost
  let host ← if kind = .other then parseOpaqueHost name else parseHost name
  if name = [] ∧ (s.head? = some ':' ∨ username ≠ [] ∨ password ≠ []) then throw .emptyHost
  let (port, rest) ← match s with
    | ':' :: s => parsePort s
    | _ => pure (none, s)
  return { scheme, username, password, host := if name = [] then none else some host, port, rest }

def isDriveLetter : List Char → Bool
  | [c, d] => isAlpha c && (d == ':' || d == '|')
  | _ => false

def parseFile (scheme s : List Char) : Except UrlError Url := do
  let plain (host : Option Host) (rest : List Char) : Url :=
    { scheme, username := [], password := [], host, port := none, rest }
  match s with
  | a :: b :: t =>
    if isSlash a && isSlash b then
      let name := t.takeWhile fun c => !endsAuthority .file c
      if name = [] ∨ isDriveLetter name then return plain none t
      else return plain (some (← parseHost name)) (t.dropWhile fun c => !endsAuthority .file c)
    else return plain none s
  | _ => return plain none s

def parse (text : String) : Except UrlError Url :=
  match scheme? (clean text.toList) with
  | none => .error .relativeWithoutBase
  | some (scheme, s) =>
    match kind scheme with
    | .file => parseFile scheme s
    | .network => parseAuthority scheme .network (s.dropWhile isSlash)
    | .other => match s with
      | '/' :: '/' :: t => parseAuthority scheme .other t
      | _ => .ok { scheme, username := [], password := [], host := none, port := none, rest := s }

end Url
end ShortLinks.Address
