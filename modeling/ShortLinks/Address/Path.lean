import ShortLinks.Address.Url

/-!
# Paths

A path is cut into segments at its slashes. A segment of one dot stands for nothing, one of two dots takes
back the segment before it unless that is a drive, and a percent sign with `2e` is a dot as well. A path that
does not start at the root has no segments and stays as it is.
-/

set_option autoImplicit false

namespace ShortLinks.Address

namespace Path

def cut (isSlash : Char → Bool) : List Char → List (List Char)
  | [] => [[]]
  | c :: rest =>
    if isSlash c then [] :: cut isSlash rest
    else match cut isSlash rest with
      | [] => [[c]]
      | segment :: more => (c :: segment) :: more

def dots? : List Char → Option Nat
  | [] => some 0
  | '.' :: rest => (dots? rest).map (· + 1)
  | '%' :: '2' :: 'e' :: rest => (dots? rest).map (· + 1)
  | '%' :: '2' :: 'E' :: rest => (dots? rest).map (· + 1)
  | _ => none

/-- The segments that are left when the last one is taken back. A drive stays. -/
def parent : List (List Char) → List (List Char)
  | [] => []
  | segment :: before => if Url.isDriveLetter segment then segment :: before else before

/-- Carries out the dots of a path; `before` holds the segments that have been kept, the last one first. A
path that ends in dots ends in a slash. -/
def resolve (before : List (List Char)) : List (List Char) → List (List Char)
  | [] => before.reverse
  | segment :: rest =>
    let ending := if rest = [] then [[]] else []
    match dots? segment with
    | some 1 => resolve (ending ++ before) rest
    | some 2 => resolve (ending ++ parent before) rest
    | _ => resolve (segment :: before) rest

def join (segments : List (List Char)) : List Char := segments.flatMap fun segment => '/' :: segment

end Path

def Url.path (url : Url) : List Char :=
  let path := url.rest.takeWhile fun c => c != '?' && c != '#'
  match Url.kind url.scheme, path with
  | .other, '/' :: rest => Path.join (Path.resolve [] (Path.cut (· == '/') rest))
  | .other, _ => path
  | _, path =>
    Path.join (Path.resolve [] (Path.cut Url.isSlash (if path.head?.any Url.isSlash then path.tail else path)))

def Url.query (url : Url) : List Char :=
  ((url.rest.takeWhile (· != '#')).dropWhile (· != '?')).tail

end ShortLinks.Address
