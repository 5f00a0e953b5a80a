import WifiStation.Text.Number
import WifiStation.Decimal.Binary64

/-!
# WifiStation.Toml.Lexeme

The lexemes of TOML: comments, strings in their four forms, keys, and bare scalars.

A reader takes the text behind what opens the lexeme and gives what it read with the text behind
it, or nothing if the text is malformed.

* Basic strings know the escapes of version 1.1 of the format, with `\e` and `\x`.
* Control characters other than the tab stand in no string and no comment.
* A multi-line string may hold one or two quotes before its closing three.
* A dotted key has at most `maxKeyParts` parts, in an assignment and in a header alike.
-/

namespace WifiStation.Toml

open WifiStation.Text WifiStation.Decimal

/-! ### Blanks, newlines, comments -/

/-- A blank inside a line. -/
def isSpace (c : Char) : Bool := c = ' ' || c = '\t'

/-- The text behind blanks. -/
def skipSpace (s : List Char) : List Char := s.dropWhile isSpace

/-- A character that may stand in a string or comment. -/
def isAllowed (c : Char) : Bool := c = '\t' || (0x20 ≤ c.toNat && c.toNat ≠ 0x7F)

/-- The text behind a newline. -/
def newline? : List Char → Option (List Char)
  | '\n' :: rest => some rest
  | '\r' :: '\n' :: rest => some rest
  | _ => none

/-- The text behind a comment, which starts behind its sign: a newline or the end. -/
def comment? (s : List Char) : Option (List Char) :=
  let rest := s.dropWhile isAllowed
  if rest.isEmpty || (newline? rest).isSome then some rest else none

/-- The text behind blanks, newlines and comments; the first argument bounds their number. -/
def skipTrivia? : Nat → List Char → Option (List Char)
  | 0, s => some s
  | fuel + 1, s =>
    match skipSpace s with
    | '#' :: rest => (comment? rest).bind (skipTrivia? fuel)
    | rest =>
      match newline? rest with
      | some rest => skipTrivia? fuel rest
      | none => some rest

/-- The text behind what may stand around an equals sign: blanks, and between braces newlines and
comments too. -/
def skipGap? (braced : Bool) (s : List Char) : Option (List Char) :=
  if braced then skipTrivia? s.length s else some (skipSpace s)

/-- The text behind the rest of a line: blanks, perhaps a comment, and a newline or the end. -/
def lineEnd? (s : List Char) : Option (List Char) :=
  let ending (s : List Char) := if s.isEmpty then some s else newline? s
  match skipSpace s with
  | '#' :: rest => (comment? rest).bind ending
  | rest => ending rest

/-! ### Strings -/

/-- The character of a code point. -/
def scalar? (n : Nat) : Option Char :=
  if n < 0xD800 ∨ (0xE000 ≤ n ∧ n < 0x110000) then some (Char.ofNat n) else none

/-- The character of hexadecimal digits of which `count` stand at the start. -/
def hexEscape? (count : Nat) (s : List Char) : Option (Char × List Char) :=
  let digits := s.take count
  if digits.length = count then
    ((digits? 16 digits).bind scalar?).map fun c => (c, s.drop count)
  else none

/-- The character of an escape behind its backslash. -/
def escape? : List Char → Option (Char × List Char)
  | [] => none
  | e :: rest =>
    if e = 'b' then some (Char.ofNat 8, rest)
    else if e = 't' then some ('\t', rest)
    else if e = 'n' then some ('\n', rest)
    else if e = 'f' then some (Char.ofNat 12, rest)
    else if e = 'r' then some ('\r', rest)
    else if e = 'e' then some (Char.ofNat 27, rest)
    else if e = '"' then some ('"', rest)
    else if e = '\\' then some ('\\', rest)
    else if e = 'x' then hexEscape? 2 rest
    else if e = 'u' then hexEscape? 4 rest
    else if e = 'U' then hexEscape? 8 rest
    else none

/-- Puts a character before what was read. -/
def withChar (c : Char) (r : List Char × List Char) : List Char × List Char := (c :: r.1, r.2)

/-- A basic string. The first argument bounds its length. -/
def basic? : Nat → List Char → Option (List Char × List Char)
  | 0, _ => none
  | _ + 1, [] => none
  | fuel + 1, c :: rest =>
    if c = '"' then some ([], rest)
    else if c = '\\' then
      (escape? rest).bind fun e => (basic? fuel e.2).map (withChar e.1)
    else if isAllowed c then (basic? fuel rest).map (withChar c)
    else none

/-- A literal string. -/
def literal? : List Char → Option (List Char × List Char)
  | [] => none
  | c :: rest =>
    if c = '\'' then some ([], rest)
    else if isAllowed c then (literal? rest).map (withChar c)
    else none

/-- Behind three quotes: up to two more belong to the string, which ends here. -/
def closing (quote : Char) (s : List Char) : List Char × List Char :=
  let extra := (s.take 2).takeWhile (· = quote)
  (extra, s.drop extra.length)

/-- The text behind three quotes. -/
def three? (quote : Char) : List Char → Option (List Char)
  | a :: b :: c :: rest => if a = quote ∧ b = quote ∧ c = quote then some rest else none
  | _ => none

/-- Behind a backslash at the end of a line: the text behind all blanks and newlines. -/
def continuation? (fuel : Nat) (s : List Char) : Option (List Char) :=
  (newline? (skipSpace s)).map (go fuel)
where
  /-- Skips blanks and newlines. -/
  go : Nat → List Char → List Char
    | 0, s => s
    | fuel + 1, s =>
      match newline? (skipSpace s) with
      | some rest => go fuel rest
      | none => skipSpace s

/-- The body of a multi-line string. Escapes count where `escapes` says so. -/
def multiline? (quote : Char) (escapes : Bool) : Nat → List Char → Option (List Char × List Char)
  | 0, _ => none
  | fuel + 1, s =>
    match three? quote s with
    | some rest => some (closing quote rest)
    | none =>
      match s with
      | [] => none
      | c :: rest =>
        if c = '\\' ∧ escapes then
          match continuation? fuel rest with
          | some rest => multiline? quote escapes fuel rest
          | none => (escape? rest).bind fun e =>
            (multiline? quote escapes fuel e.2).map (withChar e.1)
        else if isAllowed c ∨ c = '\n' ∨ (c = '\r' ∧ rest.head? = some '\n') then
          (multiline? quote escapes fuel rest).map (withChar c)
        else none

/-- A string in any form, from its first quote on. -/
def string? (s : List Char) : Option (List Char × List Char) :=
  let body (s : List Char) := (newline? s).getD s
  match three? '"' s, three? '\'' s, s with
  | some rest, _, _ => multiline? '"' true (s.length + 1) (body rest)
  | _, some rest, _ => multiline? '\'' false (s.length + 1) (body rest)
  | _, _, '"' :: rest => basic? (s.length + 1) rest
  | _, _, '\'' :: rest => literal? rest
  | _, _, _ => none

/-! ### Keys -/

/-- A character of a bare key. -/
def isBareKeyChar (c : Char) : Bool := c.isAlphanum || c = '-' || c = '_'

/-- A key without dots. -/
def simpleKey? (s : List Char) : Option (List Char × List Char) :=
  match s with
  | '"' :: rest => basic? (s.length + 1) rest
  | '\'' :: rest => literal? rest
  | _ =>
    let bare := s.takeWhile isBareKeyChar
    if bare.isEmpty then none else some (bare, s.dropWhile isBareKeyChar)

/-- How many parts a dotted key may have. -/
def maxKeyParts : Nat := 80

/-- The parts of a key between its dots, at most as many as the first argument says. Blanks may
stand around a dot, newlines may not. -/
def keyPath? : Nat → List Char → Option (List String × List Char)
  | 0, _ => none
  | fuel + 1, s => do
    let (key, rest) ← simpleKey? s
    match skipSpace rest with
    | '.' :: rest =>
      let (keys, rest) ← keyPath? fuel (skipSpace rest)
      return (String.ofList key :: keys, rest)
    | rest => return ([String.ofList key], rest)

/-! ### Bare scalars -/

/-- A character of a bare scalar. -/
def isScalarChar (c : Char) : Bool :=
  c.isAlphanum || c = '+' || c = '-' || c = '_' || c = '.' || c = ':'

/-- Digits with single underscores between them, without the underscores. -/
def digitRun? (isDigit : Char → Bool) : List Char → Option (List Char)
  | [] => none
  | [c] => if isDigit c then some [c] else none
  | c :: '_' :: rest => if isDigit c then (digitRun? isDigit rest).map (c :: ·) else none
  | c :: rest => if isDigit c then (digitRun? isDigit rest).map (c :: ·) else none

/-- The digits of a decimal whole number, which has no leading zero. -/
def decimal? (s : List Char) : Option (List Char) :=
  (digitRun? isDigit s).filter fun ds => ds.length = 1 || ds.head? ≠ some '0'

/-- A sign and the text behind it. -/
def signed (s : List Char) : Bool × List Char :=
  match s with
  | '-' :: rest => (true, rest)
  | '+' :: rest => (false, rest)
  | _ => (false, s)

/-- A whole number in a base named by a letter behind a zero. -/
def radixInteger? (base : Nat) (s : List Char) : Option Int :=
  ((digitRun? (fun c => (digit? base c).isSome) s).bind (digits? base)).map fun n => (n : Int)

/-- A whole number. -/
def integer? (s : List Char) : Option Int :=
  match s with
  | '0' :: 'x' :: rest => radixInteger? 16 rest
  | '0' :: 'o' :: rest => radixInteger? 8 rest
  | '0' :: 'b' :: rest => radixInteger? 2 rest
  | _ =>
    let (negative, body) := signed s
    ((decimal? body).bind (digits? 10)).map fun n => if negative then -(n : Int) else (n : Int)

/-- What a floating point number is. -/
inductive FloatKind where
  | finite
  /-- Infinite because it is written so. -/
  | infinite
  | nan
  /-- Written with digits, but too large to be finite. -/
  | overflow
  deriving DecidableEq, Repr

/-- Whether digits times a power of ten, `places` behind the point and with an exponent, are too
large. -/
def overflows (digits : List Char) (places : Nat) (negative : Bool) (exponent : List Char) :
    Bool :=
  let significant := digits.dropWhile (· = '0')
  let e := (digits? 10 exponent).getD 0
  if significant.isEmpty || negative then
    ((digits? 10 digits).bind fun n => Magnitude.round? n (10 ^ places)).isNone && !negative
  else if significant.length + e > places + 400 then true
  else ((digits? 10 digits).bind fun n => Magnitude.round? (n * 10 ^ e) (10 ^ places)).isNone

/-- The digits behind an exponent's letter, with its sign. -/
def exponentPart? (s : List Char) : Option (Bool × List Char) :=
  let (negative, body) := signed s
  (digitRun? isDigit body).map fun ds => (negative, ds)

/-- A floating point number. -/
def float? (s : List Char) : Option FloatKind :=
  let (_, body) := signed s
  if body = ['i', 'n', 'f'] then some .infinite
  else if body = ['n', 'a', 'n'] then some .nan
  else
    let isPart (c : Char) := c ≠ '.' && c ≠ 'e' && c ≠ 'E'
    let whole := body.takeWhile isPart
    let build (whole fraction : List Char) (exponent : Bool × List Char) : FloatKind :=
      if overflows (whole ++ fraction) fraction.length exponent.1 exponent.2 then .overflow
      else .finite
    match decimal? whole, body.dropWhile isPart with
    | some whole, '.' :: rest =>
      let isDigitPart (c : Char) := c ≠ 'e' && c ≠ 'E'
      match digitRun? isDigit (rest.takeWhile isDigitPart), rest.dropWhile isDigitPart with
      | some fraction, [] => some (build whole fraction (false, []))
      | some fraction, _ :: rest => (exponentPart? rest).map (build whole fraction)
      | none, _ => none
    | some whole, e :: rest =>
      if e = 'e' ∨ e = 'E' then (exponentPart? rest).map (build whole []) else none
    | _, _ => none

/-! ### Dates and times -/

/-- A number of `count` digits and the text behind it. -/
def fixed? (count : Nat) (s : List Char) : Option (Nat × List Char) :=
  let digits := s.take count
  if digits.length = count && digits.all isDigit then
    (digits? 10 digits).map fun n => (n, s.drop count)
  else none

/-- The text behind a character. -/
def expect? (c : Char) : List Char → Option (List Char)
  | [] => none
  | d :: rest => if d = c then some rest else none

/-- The number of days of a month. -/
def daysOf (year month : Nat) : Nat :=
  if month = 2 then
    if (year % 4 = 0 ∧ year % 100 ≠ 0) ∨ year % 400 = 0 then 29 else 28
  else if month = 4 ∨ month = 6 ∨ month = 9 ∨ month = 11 then 30
  else 31

/-- The text behind a date. -/
def date? (s : List Char) : Option (List Char) := do
  let (year, rest) ← fixed? 4 s
  let (month, rest) ← fixed? 2 (← expect? '-' rest)
  let (day, rest) ← fixed? 2 (← expect? '-' rest)
  if 1 ≤ month ∧ month ≤ 12 ∧ 1 ≤ day ∧ day ≤ daysOf year month then return rest else none

/-- The text behind an hour and a minute. -/
def clock? (s : List Char) : Option (List Char) := do
  let (hour, rest) ← fixed? 2 s
  let (minute, rest) ← fixed? 2 (← expect? ':' rest)
  if hour ≤ 23 ∧ minute ≤ 59 then return rest else none

/-- The text behind a time; seconds may be left out. -/
def time? (s : List Char) : Option (List Char) := do
  let rest ← clock? s
  match rest with
  | ':' :: rest =>
    let (second, rest) ← fixed? 2 rest
    if second > 60 then none
    else match rest with
      | '.' :: rest =>
        if (rest.takeWhile isDigit).isEmpty then none else return rest.dropWhile isDigit
      | rest => return rest
  | rest => return rest

/-- Whether a text is empty or an offset from universal time. -/
def isOffset (s : List Char) : Bool :=
  match s with
  | [] => true
  | ['Z'] | ['z'] => true
  | c :: rest => (c = '+' || c = '-') && clock? rest = some []

/-- Whether a text is a date, a time, or both with perhaps an offset. -/
def isDateTime (s : List Char) : Bool :=
  match date? s with
  | some [] => true
  | some (c :: rest) =>
    (c = 'T' || c = 't' || c = ' ') && (time? rest).any isOffset
  | none => time? s = some []

/-- The text of a bare scalar and the text behind it. A blank may stand between a date and a
time. -/
def takeScalar (s : List Char) : List Char × List Char :=
  let first := s.takeWhile isScalarChar
  let rest := s.dropWhile isScalarChar
  match rest with
  | ' ' :: c :: more =>
    if date? first = some [] ∧ isDigit c then
      (first ++ ' ' :: (c :: more).takeWhile isScalarChar, (c :: more).dropWhile isScalarChar)
    else (first, rest)
  | _ => (first, rest)

end WifiStation.Toml
