import ShortLinks.Bytes

/-!
# Random sources

A random source fills buffers of sixty-four bytes, one at each request, or fails. It counts the requests,
failed ones included.
-/

set_option autoImplicit false

namespace ShortLinks

inductive Fill where
  | buffer (bytes : Vector UInt8 64)
  | failure (code : Nat)
deriving DecidableEq, Repr

structure Random where
  /-- What each request gives, from the first on. -/
  fill : Nat → Fill
  requests : Nat
  /-- How many requests are made for one identifier at most. It bounds a run that need not have an end: what is said
  of the requests of a service is said for every patience from some on. -/
  patience : Nat

namespace Random

def next (r : Random) : Fill × Random := (r.fill r.requests, { r with requests := r.requests + 1 })

def repeated (bytes : Bytes) : Fill :=
  .buffer (Vector.ofFn fun i => (bytes[i.val % bytes.length]?).getD 0)

def after (fills : List Fill) (rest : Nat → Fill) (n : Nat) : Fill :=
  match fills[n]? with
  | some fill => fill
  | none => rest (n - fills.length)

end Random
end ShortLinks
