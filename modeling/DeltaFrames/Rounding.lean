/-!
# Rounding

`halfEven` takes a number to the nearest integer, and a number half-way between two integers to the
even one. `binary64` takes a positive number to the nearest one that is written with 53 binary
digits and a power of two, which is how double-precision arithmetic keeps a result. It does not
look at the bounds of the exponent: it is for quantities between 10⁻³⁰ and 10³⁰.
-/

namespace DeltaFrames.Rounding

def halfEven (x : Rat) : Int :=
  let below := x.floor
  let excess := x - below
  if excess < 1 / 2 then below
  else if 1 / 2 < excess then below + 1
  else if below % 2 = 0 then below
  else below + 1

def powerOfTwo : Int → Rat
  | .ofNat exponent => Nat.shiftLeft 1 exponent
  | .negSucc exponent => mkRat 1 (Nat.shiftLeft 1 (exponent + 1))

/-- The distance between neighbouring numbers of 53 binary digits around a positive number. -/
def spacing (x : Rat) : Rat :=
  let exponent : Int := (Nat.log2 x.num.natAbs : Int) - Nat.log2 x.den - 52
  let unit := powerOfTwo exponent
  if x < powerOfTwo 52 * unit then unit / 2 else unit

def binary64 (x : Rat) : Rat :=
  if x ≤ 0 then 0 else halfEven (x / spacing x) * spacing x

end DeltaFrames.Rounding
