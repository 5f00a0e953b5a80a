/-!
# WifiStation.Text.Duration

How long something may take, as messages say it: in seconds from one second on, and in
milliseconds below; a part of a second follows a point, without zeros at its end.
-/

namespace WifiStation.Text

/-- Without the zeros at the end. -/
def dropZeros (digits : List Char) : List Char := (digits.reverse.dropWhile (· = '0')).reverse

/-- Three digits of a number below a thousand. -/
def threeDigits (n : Nat) : List Char :=
  [Nat.digitChar (n / 100 % 10), Nat.digitChar (n / 10 % 10), Nat.digitChar (n % 10)]

/-- A number of milliseconds. -/
def duration (ms : Nat) : String :=
  if ms = 0 then "0ns"
  else if ms < 1000 then s!"{ms}ms"
  else
    let rest := dropZeros (threeDigits (ms % 1000))
    if rest.isEmpty then s!"{ms / 1000}s"
    else s!"{ms / 1000}." ++ String.ofList rest ++ "s"

end WifiStation.Text
