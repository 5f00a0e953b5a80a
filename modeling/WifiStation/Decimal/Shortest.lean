import WifiStation.Decimal.Binary64

/-!
# WifiStation.Decimal.Shortest

The fewest decimal digits that read back as a floating point number.

A decimal reads back if it lies between the midpoints to the two neighbours (the midpoints
themselves count when the mantissa is even). `shortest` tries one digit, two digits and so on: on
the grid of that many digits the two points around the number are the only ones that need a look,
and of two that read back the nearer is taken.
-/

namespace WifiStation.Decimal

/-- A decimal `digits * 10 ^ exponent`. -/
structure Scientific where
  digits : Nat
  exponent : Int
  deriving DecidableEq, Repr, Inhabited

/-- A power of ten as a ratio. -/
def tenPower (k : Int) : Nat × Nat :=
  if 0 ≤ k then (10 ^ k.toNat, 1) else (1, 10 ^ (-k).toNat)

/-- The reals that read back as a number: the ends, as numerators over one denominator, and
whether the ends count. -/
structure Rounding where
  low : Nat
  value : Nat
  high : Nat
  den : Nat
  closed : Bool

/-- The reals that round to a positive number, in quarters of its last place. -/
def Magnitude.rounding (a : Magnitude) : Rounding :=
  let unit := (Magnitude.mk 1 (a.exponent - 2)).ratio
  let below := if a.mantissa = 2 ^ 52 ∧ Magnitude.minExponent < a.exponent then 1 else 2
  { low := (4 * a.mantissa - below) * unit.1
    value := 4 * a.mantissa * unit.1
    high := (4 * a.mantissa + 2) * unit.1
    den := unit.2
    closed := a.mantissa % 2 == 0 }

/-- Whether `digits * 10 ^ k` reads back. -/
def Rounding.admits (r : Rounding) (digits : Nat) (k : Int) : Bool :=
  let (n, d) := tenPower k
  let x := digits * n * r.den
  if r.closed then r.low * d ≤ x && x ≤ r.high * d else r.low * d < x && x < r.high * d

/-- How often a number can be divided by ten, at most `fuel` times, with what is left. -/
def stripZeros : Nat → Nat → Nat × Nat
  | 0, n => (n, 0)
  | fuel + 1, n =>
    if n ≠ 0 ∧ n % 10 = 0 then
      let r := stripZeros fuel (n / 10)
      (r.1, r.2 + 1)
    else (n, 0)

/-- The exponent of ten of the leading digit of `num / den`, searched from `guess` upward. -/
def leadingExponent (num den : Nat) : Nat → Int → Int
  | 0, guess => guess
  | fuel + 1, guess =>
    let (n, d) := tenPower (guess + 1)
    if num * d < n * den then guess else leadingExponent num den fuel (guess + 1)

/-- The point of the grid at `10 ^ k` that reads back, if one does. -/
def Rounding.onGrid? (r : Rounding) (k : Int) : Option Nat :=
  let (n, d) := tenPower k
  let num := r.value * d
  let den := r.den * n
  let floor := num / den
  match r.admits floor k, r.admits (floor + 1) k with
  | true, true => some (if 2 * (num % den) > den then floor + 1 else floor)
  | true, false => some floor
  | false, true => some (floor + 1)
  | false, false => none

/-- Tries grids from coarse to fine. -/
def Rounding.shortestFrom (r : Rounding) : Nat → Int → Scientific
  | 0, k => ⟨(r.onGrid? k).getD 0, k⟩
  | fuel + 1, k =>
    match r.onGrid? k with
    | some digits => ⟨digits, k⟩
    | none => shortestFrom r fuel (k - 1)

/-- The shortest decimal that reads back, without zeros at the end. -/
def Magnitude.shortest (a : Magnitude) : Scientific :=
  if a.mantissa = 0 then ⟨0, 0⟩
  else
    let r := a.rounding
    let s := r.shortestFrom 17 (leadingExponent r.value r.den 700 (-330))
    let (digits, zeros) := stripZeros 20 s.digits
    ⟨digits, s.exponent + zeros⟩

end WifiStation.Decimal
