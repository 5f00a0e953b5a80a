import WifiStation.Text.Class

/-!
# WifiStation.Text.Quoted

Quoted text, as messages show a value that came from outside: between double quotes, with the
quote and the backslash escaped, four short escapes, and the code point in hexadecimal for every
other character that cannot be shown.

No character is written as a quote that stands alone (`escapeChar_ne_quote`), so a reader sees where
the value ends.
-/

namespace WifiStation.Text

/-- The lower-case hexadecimal digits of a number, without leading zeros. -/
def hexDigits (n : Nat) : List Char := Nat.toDigits 16 n

/-- How a character is written between quotes. -/
def escapeChar (c : Char) : List Char :=
  if c = '"' then ['\\', '"']
  else if c = '\\' then ['\\', '\\']
  else if c = '\n' then ['\\', 'n']
  else if c = '\r' then ['\\', 'r']
  else if c = '\t' then ['\\', 't']
  else if c.toNat = 0 then ['\\', '0']
  else if isUnprintable c then ['\\', 'u', '\x7b'] ++ hexDigits c.toNat ++ ['\x7d']
  else [c]

/-- A text between double quotes, with the characters that need it escaped. -/
def quote (s : String) : String :=
  String.ofList ('"' :: s.toList.flatMap escapeChar ++ ['"'])

/-- No character is written as a quote standing alone. -/
theorem escapeChar_ne_quote (c : Char) : escapeChar c ≠ ['"'] := by
  unfold escapeChar
  split
  · simp
  · rename_i h
    repeat' split
    all_goals simp_all

end WifiStation.Text
