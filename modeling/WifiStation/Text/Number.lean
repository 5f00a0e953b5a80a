import WifiStation.Power

/-!
# WifiStation.Text.Number

Reading numbers from text.

* `digits?` reads a nonempty run of digits in a base up to 36, letters in either case.
* `unsigned?` allows a leading plus and keeps the value below a bound.
* `signed?` allows either sign and keeps the value in the range of a two's complement word.

A sign alone is no number, and neither is anything with a blank, an underscore or a digit that is
not ASCII.
-/

namespace WifiStation.Text

/-- The value of a digit below `base`, letters in either case. -/
def digit? (base : Nat) (c : Char) : Option Nat :=
  let n := c.toNat
  let value :=
    if 48 ≤ n && n ≤ 57 then some (n - 48)
    else if 97 ≤ n && n ≤ 122 then some (n - 87)
    else if 65 ≤ n && n ≤ 90 then some (n - 55)
    else none
  value.filter (· < base)

/-- An ASCII decimal digit. -/
def isDigit (c : Char) : Bool := 48 ≤ c.toNat && c.toNat ≤ 57

/-- The value of digits, most significant first, continuing from `n`. -/
def accumulate? (base : Nat) : Nat → List Char → Option Nat
  | n, [] => some n
  | n, c :: rest =>
    match digit? base c with
    | some d => accumulate? base (n * base + d) rest
    | none => none

/-- The value of a nonempty run of digits. -/
def digits? (base : Nat) (s : List Char) : Option Nat :=
  if s.isEmpty then none else accumulate? base 0 s

/-- An unsigned number below `bound`, with an optional plus. -/
def unsigned? (base bound : Nat) (s : List Char) : Option Nat :=
  let body := match s with
    | '+' :: rest => rest
    | _ => s
  (digits? base body).filter (· < bound)

/-- A decimal number in the range of a two's complement word of `bits` bits, with an optional
sign. -/
def signed? (bits : Nat) (s : List Char) : Option Int :=
  match s with
  | '-' :: rest => ((digits? 10 rest).filter (· ≤ 2 ^ (bits - 1))).map fun n => -(n : Int)
  | '+' :: rest => ((digits? 10 rest).filter (· < 2 ^ (bits - 1))).map fun n => (n : Int)
  | _ => ((digits? 10 s).filter (· < 2 ^ (bits - 1))).map fun n => (n : Int)

end WifiStation.Text
