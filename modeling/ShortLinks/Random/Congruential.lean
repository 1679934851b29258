import ShortLinks.Random

/-!
# Linear congruential numbers

Each state is a fixed affine image of the one before it, and gives one byte, its highest. Affine maps
compose, so the state after any number of steps is found without taking them one by one.
-/

set_option autoImplicit false

namespace ShortLinks.Random.Congruential

structure Affine where
  factor : UInt64
  offset : UInt64
deriving DecidableEq, Repr

namespace Affine

def apply (f : Affine) (x : UInt64) : UInt64 := f.factor * x + f.offset

def identity : Affine := ⟨1, 0⟩

def after (f g : Affine) : Affine := ⟨f.factor * g.factor, f.factor * g.offset + f.offset⟩

/-- The map applied `n` times over, by squaring; `bits` bounds the number of binary digits of `n`. -/
def iterate (f : Affine) : Nat → Nat → Affine
  | 0, _ => identity
  | bits + 1, n =>
    let half := iterate (f.after f) bits (n / 2)
    if n % 2 = 1 then half.after f else half

end Affine

def step : Affine := ⟨6364136223846793005, 1442695040888963407⟩

def state (seed : UInt64) (n : Nat) : UInt64 := (step.iterate 64 n).apply seed

def byte (x : UInt64) : UInt8 := (x >>> 56).toUInt8

def fill (seed : UInt64) (n : Nat) : Fill :=
  .buffer (Vector.ofFn fun i => byte (state seed (64 * n + i.val + 1)))

end ShortLinks.Random.Congruential
