import WifiStation.Text.Quoted

/-!
# WifiStation.Toml.Text

How values are written in TOML.

A string is written in the plainest form that can hold it: between double quotes without escapes,
between single quotes, over several lines with either quote, and only then with escapes. A list
with more than one item has each on a line of its own.
-/

namespace WifiStation.Toml

open WifiStation.Text

/-! ### What a string needs -/

/-- The longest run of a character. -/
def longestRun (c : Char) (s : List Char) : Nat :=
  (s.foldl (fun (r : Nat × Nat) d =>
    if d = c then (r.1 + 1, max r.2 (r.1 + 1)) else (0, r.2)) (0, 0)).2

/-- A control character other than the tab and the line feed. -/
def needsCode (c : Char) : Bool :=
  (c.toNat < 0x20 && c ≠ '\t' && c ≠ '\n') || c.toNat = 0x7F

/-! ### Forms -/

/-- Four upper-case hexadecimal digits. -/
def code4 (n : Nat) : List Char :=
  let ds := (Nat.toDigits 16 n).map Char.toUpper
  List.replicate (4 - ds.length) '0' ++ ds

/-- How a character other than a quote is written in a string with escapes. -/
def escaped (multiline : Bool) (c : Char) : List Char :=
  if c = '\\' then ['\\', '\\']
  else if c = '\t' then ['\\', 't']
  else if c = '\n' then if multiline then ['\n'] else ['\\', 'n']
  else if c = '\r' then ['\\', 'r']
  else if c.toNat = 8 then ['\\', 'b']
  else if c.toNat = 12 then ['\\', 'f']
  else if needsCode c then ['\\', 'u'] ++ code4 c.toNat
  else [c]

/-- The body of a string with escapes; `run` quotes stand before it, and no more than two may stand
together over several lines, none on one. -/
def escapedBody (multiline : Bool) : Nat → List Char → List Char
  | _, [] => []
  | run, c :: rest =>
    if c = '"' then
      if run < (if multiline then 2 else 0) then c :: escapedBody multiline (run + 1) rest
      else '\\' :: c :: escapedBody multiline 0 rest
    else escaped multiline c ++ escapedBody multiline 0 rest

/-- A body between three quotes, on a line of its own if it has several. -/
def multiline (quote : Char) (s body : List Char) : List Char :=
  let quotes := [quote, quote, quote]
  quotes ++ (if s.contains '\n' then ['\n'] else []) ++ body ++ quotes

/-- A string. -/
def stringText (text : String) : String :=
  let s := text.toList
  let needsCodes := s.any needsCode
  let hasNewline := s.contains '\n'
  let basic := '"' :: escapedBody false 0 s ++ ['"']
  let basicLines := multiline '"' s (escapedBody true 0 s)
  String.ofList <|
    if !needsCodes && !hasNewline && !s.contains '\\' && !s.contains '"' then basic
    else if !needsCodes && !hasNewline && !s.contains '\'' then '\'' :: s ++ ['\'']
    else if !needsCodes && !s.contains '\\' && longestRun '"' s ≤ 2 then basicLines
    else if !needsCodes && longestRun '\'' s ≤ 2 then multiline '\'' s s
    else if hasNewline then basicLines
    else basic

/-- A list of strings. -/
def stringsText : List String → String
  | [] => "[]"
  | [text] => "[" ++ stringText text ++ "]"
  | texts => "[\n" ++ String.join (texts.map fun t => "    " ++ stringText t ++ ",\n") ++ "]"

end WifiStation.Toml
