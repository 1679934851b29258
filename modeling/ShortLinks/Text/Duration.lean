/-!
# Durations

A duration is written in the largest unit of seconds, milliseconds, microseconds and nanoseconds of
which it holds one at least, with the rest as a decimal fraction without zeros at its end.
-/

set_option autoImplicit false

namespace ShortLinks

structure Duration where
  nanoseconds : Nat
deriving DecidableEq, Repr

namespace Duration

def ofSeconds (n : Nat) : Duration := ⟨n * 1000000000⟩

def ofMilliseconds (n : Nat) : Duration := ⟨n * 1000000⟩

def fraction (places n : Nat) : String :=
  let digits := (Nat.toDigits 10 (Nat.pow 10 places + n)).drop 1
  let kept := (digits.reverse.dropWhile (· == '0')).reverse
  if kept = [] then "" else "." ++ String.ofList kept

def inUnit (places : Nat) (unit : String) (n : Nat) : String :=
  toString (n / Nat.pow 10 places) ++ fraction places (n % Nat.pow 10 places) ++ unit

def text (d : Duration) : String :=
  let n := d.nanoseconds
  if 1000000000 ≤ n then inUnit 9 "s" n
  else if 1000000 ≤ n then inUnit 6 "ms" n
  else if 1000 ≤ n then inUnit 3 "µs" n
  else inUnit 0 "ns" n

end Duration
end ShortLinks
