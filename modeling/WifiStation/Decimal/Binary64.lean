import WifiStation.Power

/-!
# WifiStation.Decimal.Binary64

Finite numbers of sixty-four bit floating point, in exact arithmetic: a magnitude is a mantissa
below `2 ^ 53` times a power of two.

* `Magnitude.round?` is the nearest such number to a ratio, a tie going to the even mantissa;
  `none` if the ratio is too large.
* `Magnitude.mul?` and `Magnitude.div?` round the exact result once.
-/

namespace WifiStation.Decimal

/-- A number `mantissa * 2 ^ exponent`. -/
structure Magnitude where
  mantissa : Nat
  exponent : Int
  deriving DecidableEq, Repr, Inhabited

namespace Magnitude

/-- The least exponent. -/
def minExponent : Int := -1074

/-- The greatest exponent. -/
def maxExponent : Int := 971

/-- Zero. -/
def zero : Magnitude := ⟨0, minExponent⟩

/-- A ratio in units of `2 ^ e`, as numerator and denominator. -/
def scaled (num den : Nat) (e : Int) : Nat × Nat :=
  if 0 ≤ e then (num, den * 2 ^ e.toNat) else (num * 2 ^ (-e).toNat, den)

/-- A quotient rounded to the nearest whole number, a tie to the even one. -/
def divNearest (num den : Nat) : Nat :=
  let q := num / den
  let r := num % den
  if 2 * r > den || (2 * r == den && q % 2 == 1) then q + 1 else q

/-- The exponent at which a positive ratio has a mantissa of 53 bits, or the least one. -/
def exponentOf (num den : Nat) : Int :=
  let guess : Int := max ((Nat.log2 num : Int) - (Nat.log2 den : Int) - 53) minExponent
  let (n, d) := scaled num den guess
  if n / d < 2 ^ 53 then guess else guess + 1

/-- The nearest number to `num / den`. -/
def round? (num den : Nat) : Option Magnitude :=
  if num = 0 then some zero
  else
    let e := exponentOf num den
    let (n, d) := scaled num den e
    let q := divNearest n d
    let m : Magnitude := if q = 2 ^ 53 then ⟨2 ^ 52, e + 1⟩ else ⟨q, e⟩
    if m.exponent ≤ maxExponent then some m else none

/-- The number as a ratio. -/
def ratio (a : Magnitude) : Nat × Nat :=
  if 0 ≤ a.exponent then (a.mantissa * 2 ^ a.exponent.toNat, 1)
  else (a.mantissa, 2 ^ (-a.exponent).toNat)

/-- The product, rounded. -/
def mul? (a b : Magnitude) : Option Magnitude :=
  round? (a.ratio.1 * b.ratio.1) (a.ratio.2 * b.ratio.2)

/-- The quotient, rounded. -/
def div? (a b : Magnitude) : Option Magnitude :=
  round? (a.ratio.1 * b.ratio.2) (a.ratio.2 * b.ratio.1)

end Magnitude

end WifiStation.Decimal
