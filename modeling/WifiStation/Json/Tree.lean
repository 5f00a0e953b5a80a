import WifiStation.Json.Value
import WifiStation.Text.Number

/-!
# WifiStation.Json.Tree

JSON text as a tree of what is written, up to the first fault.

A reader that looks for something definite stops at the first thing in the text that it cannot
accept, be it a fault of the text or a value of the wrong kind. `Tree.read` therefore never fails:
where the text breaks off or goes wrong it leaves `broken` behind, or marks the array or object
that was not closed, and a consumer walks the tree in the order of the text.

* A string or name whose escapes spell no characters (half of a surrogate pair) is a good lexeme;
  only a consumer that wants its text objects. It is `none`.
* A number is kept as its digits.
* `Tree.value?` is the value of a tree without faults; it allows 127 levels of nesting and no
  number beyond the floating point range.
-/

namespace WifiStation

open WifiStation.Text WifiStation.Decimal

/-- A number as written. -/
structure NumberLexeme where
  negative : Bool
  /-- The digits before the point. -/
  whole : List Char
  /-- The digits behind the point; there are some if there is a point. -/
  fraction : List Char
  /-- The sign and digits of the exponent. -/
  exponent : Option (Bool × List Char)
  deriving DecidableEq, Repr, Inhabited

/-- The text of a string; `none` if an escape in it is no character. -/
abbrev TreeText := Option String

/-- What is written, up to the first fault. -/
inductive Tree where
  | null
  | bool (b : Bool)
  | number (n : NumberLexeme)
  | string (text : TreeText)
  | array (items : List Tree) (closed : Bool)
  | object (members : List (TreeText × Tree)) (closed : Bool)
  | broken
  deriving Repr, Inhabited

namespace Tree

/-! ### Lexemes -/

/-- The four blanks of the format. -/
def isSpace (c : Char) : Bool := c = ' ' || c = '\n' || c = '\t' || c = '\r'

/-- The text behind blanks. -/
def skipSpace (s : List Char) : List Char := s.dropWhile isSpace

/-- A unit of a string: a character as it stands, or the code unit of an escape. -/
inductive StringUnit where
  | char (c : Char)
  | unit (n : Nat)
  deriving DecidableEq, Repr

/-- The character behind a backslash that stands for one other character. -/
def simpleEscape? (c : Char) : Option Char :=
  if c = '"' then some '"'
  else if c = '\\' then some '\\'
  else if c = '/' then some '/'
  else if c = 'b' then some (Char.ofNat 8)
  else if c = 'f' then some (Char.ofNat 12)
  else if c = 'n' then some '\n'
  else if c = 'r' then some '\r'
  else if c = 't' then some '\t'
  else none

/-- The units of a string up to the closing quote, and the text behind it. -/
def units? : List Char → Option (List StringUnit × List Char)
  | [] => none
  | '"' :: rest => some ([], rest)
  | '\\' :: 'u' :: a :: b :: c :: d :: rest =>
    match accumulate? 16 0 [a, b, c, d], units? rest with
    | some n, some (us, rest) => some (.unit n :: us, rest)
    | _, _ => none
  | '\\' :: e :: rest =>
    match simpleEscape? e, units? rest with
    | some c, some (us, rest) => some (.char c :: us, rest)
    | _, _ => none
  | c :: rest =>
    if c.toNat < 0x20 ∨ c = '\\' then none
    else (units? rest).map fun r => (.char c :: r.1, r.2)

/-- The text of units: a pair of surrogates is one character, a lone one is none. -/
def textOf : List StringUnit → Option (List Char)
  | [] => some []
  | .char c :: rest => (textOf rest).map (c :: ·)
  | .unit hi :: .unit lo :: rest =>
    if 0xD800 ≤ hi ∧ hi < 0xDC00 then
      if 0xDC00 ≤ lo ∧ lo < 0xE000 then
        (textOf rest).map (Char.ofNat (0x10000 + (hi - 0xD800) * 0x400 + (lo - 0xDC00)) :: ·)
      else none
    else if 0xDC00 ≤ hi ∧ hi < 0xE000 then none
    else (textOf (.unit lo :: rest)).map (Char.ofNat hi :: ·)
  | .unit n :: rest =>
    if 0xD800 ≤ n ∧ n < 0xE000 then none else (textOf rest).map (Char.ofNat n :: ·)

/-- A string behind its opening quote, and the text behind it. -/
def string? (s : List Char) : Option (TreeText × List Char) :=
  (units? s).map fun r => ((textOf r.1).map String.ofList, r.2)

/-- A nonempty run of digits and the text behind it. -/
def run? (s : List Char) : Option (List Char × List Char) :=
  let run := s.takeWhile isDigit
  if run.isEmpty then none else some (run, s.dropWhile isDigit)

/-- The sign and digits of an exponent behind its letter. -/
def exponent? (s : List Char) : Option ((Bool × List Char) × List Char) :=
  match s with
  | '-' :: rest => (run? rest).map fun r => ((true, r.1), r.2)
  | '+' :: rest => (run? rest).map fun r => ((false, r.1), r.2)
  | _ => (run? s).map fun r => ((false, r.1), r.2)

/-- The digits behind a point, if there is one. -/
def fraction? (s : List Char) : Option (List Char × List Char) :=
  match s with
  | '.' :: rest => run? rest
  | _ => some ([], s)

/-- A number behind its sign, and the text behind it. A whole part has no leading zero. -/
def number? (negative : Bool) (s : List Char) : Option (NumberLexeme × List Char) := do
  let (whole, rest) ← run? s
  if whole.head? = some '0' ∧ whole.length > 1 then none
  else
    let (fraction, rest) ← fraction? rest
    match rest with
    | [] => return (⟨negative, whole, fraction, none⟩, [])
    | c :: tail =>
      if c = 'e' ∨ c = 'E' then
        let (exponent, rest) ← exponent? tail
        return (⟨negative, whole, fraction, some exponent⟩, rest)
      else return (⟨negative, whole, fraction, none⟩, c :: tail)

/-- The text behind a word. -/
def literal? : List Char → List Char → Option (List Char)
  | [], s => some s
  | w :: ws, c :: s => if w = c then literal? ws s else none
  | _ :: _, [] => none

/-! ### Reading

A reader gives the tree and the text behind it; there is none behind a fault. The first argument
bounds the nesting and is the length of the text, which no text exceeds. -/

mutual

/-- Reads a value. -/
def readValue : Nat → List Char → Tree × Option (List Char)
  | 0, _ => (broken, none)
  | fuel + 1, s =>
    match skipSpace s with
    | [] => (broken, none)
    | c :: rest =>
      if c = '"' then
        match string? rest with
        | some (text, rest) => (.string text, some rest)
        | none => (broken, none)
      else if c = '[' then
        match skipSpace rest with
        | ']' :: rest => (.array [] true, some rest)
        | rest =>
          let r := readItems fuel rest
          (.array r.1 r.2.isSome, r.2)
      else if c = '\x7b' then
        match skipSpace rest with
        | '\x7d' :: rest => (.object [] true, some rest)
        | rest =>
          let r := readMembers fuel rest
          (.object r.1 r.2.isSome, r.2)
      else if c = 'n' then
        let r := literal? ['u', 'l', 'l'] rest
        (if r.isSome then .null else broken, r)
      else if c = 't' then
        let r := literal? ['r', 'u', 'e'] rest
        (if r.isSome then .bool true else broken, r)
      else if c = 'f' then
        let r := literal? ['a', 'l', 's', 'e'] rest
        (if r.isSome then .bool false else broken, r)
      else
        match if c = '-' then number? true rest else number? false (c :: rest) with
        | some (n, rest) => (.number n, some rest)
        | none => (broken, none)

/-- Reads the items of an array up to its bracket. -/
def readItems : Nat → List Char → List Tree × Option (List Char)
  | 0, _ => ([broken], none)
  | fuel + 1, s =>
    let (v, rest) := readValue fuel s
    match rest.map skipSpace with
    | some (',' :: rest) =>
      let r := readItems fuel rest
      (v :: r.1, r.2)
    | some (']' :: rest) => ([v], some rest)
    | _ => ([v], none)

/-- Reads the members of an object up to its bracket. -/
def readMembers : Nat → List Char → List (TreeText × Tree) × Option (List Char)
  | 0, _ => ([], none)
  | fuel + 1, s =>
    match skipSpace s with
    | '"' :: rest =>
      match string? rest with
      | none => ([], none)
      | some (name, rest) =>
        match skipSpace rest with
        | ':' :: rest =>
          let (v, rest) := readValue fuel rest
          match rest.map skipSpace with
          | some (',' :: rest) =>
            let r := readMembers fuel rest
            ((name, v) :: r.1, r.2)
          | some ('\x7d' :: rest) => ([(name, v)], some rest)
          | _ => ([(name, v)], none)
        | _ => ([(name, broken)], none)
    | _ => ([], none)

end

/-- A whole text: the tree, and whether only blanks follow it. -/
def read (s : List Char) : Tree × Bool :=
  let (t, rest) := readValue (2 * s.length + 2) s
  (t, rest.any fun r => (skipSpace r).isEmpty)

/-! ### Numbers -/

/-- The digits that fit a 64-bit word together: their value, and the digits not taken. -/
def takeWord : Nat → List Char → Nat × List Char
  | n, [] => (n, [])
  | n, c :: rest =>
    let n' := n * 10 + (c.toNat - 48)
    if n' < 2 ^ 64 then takeWord n' rest else (n, c :: rest)

/-- The largest power of ten that a number is multiplied by at once. -/
def maxPower : Nat := 308

/-- The nearest number to a power of ten. -/
def powerOfTen? (k : Nat) : Option Magnitude := Magnitude.round? (10 ^ k) 1

/-- A magnitude times a power of ten, rounded at each step: one step per factor of at most
`10 ^ 308`. -/
def scale? : Nat → Magnitude → Int → Option Magnitude
  | 0, _, _ => none
  | fuel + 1, a, k =>
    if k.natAbs ≤ maxPower then
      (powerOfTen? k.natAbs).bind fun p => if 0 ≤ k then a.mul? p else a.div? p
    else if a.mantissa = 0 then some a
    else if 0 ≤ k then none
    else
      (powerOfTen? maxPower).bind fun p => (a.div? p).bind fun a => scale? fuel a (k + maxPower)

/-- The value of an exponent. One that is no 32-bit word counts as a number that nothing but zero
is multiplied by. -/
def exponentValue (digits : List Char) : Option Nat :=
  (digits? 10 digits).filter (· < 2 ^ 31)

/-- The floating point number of a lexeme: its leading digits as far as they fit a word, scaled by
the places left. -/
def real? (n : NumberLexeme) : Option Real64 :=
  let (w, dropped) := takeWord 0 n.whole
  let (significand, left) :=
    if dropped.isEmpty || !n.fraction.isEmpty then takeWord w n.fraction else (w, [])
  let places : Int := (dropped.length : Int) - ((n.fraction.length : Int) - left.length)
  let magnitude :=
    match n.exponent with
    | none => (Magnitude.round? significand 1).bind fun a => scale? 8 a places
    | some (negative, digits) =>
      match exponentValue digits with
      | some e =>
        (Magnitude.round? significand 1).bind fun a =>
          scale? 8 a (if negative then places - e else places + e)
      | none => if significand = 0 ∨ negative then some Magnitude.zero else none
  magnitude.map fun m => ⟨n.negative, m⟩

/-- The value of a number: whole if it is written so and fits a 64-bit word, signed if negative. -/
def numberValue? (n : NumberLexeme) : Option JsonNumber :=
  if n.fraction.isEmpty && n.exponent.isNone then
    match digits? 10 n.whole with
    | some v =>
      if n.negative then
        if 0 < v ∧ v ≤ 2 ^ 63 then some (.int (-(v : Int))) else (real? n).map .real
      else if v < 2 ^ 64 then some (.int v) else (real? n).map .real
    | none => none
  else (real? n).map .real

/-! ### Values -/

/-- How many arrays and objects may be nested in a value. -/
def maxNesting : Nat := 127

mutual

/-- The value of a tree, with a number of levels that may still be opened. -/
def valueWithin? (levels : Nat) : Tree → Option Json
  | .null => some .null
  | .bool b => some (.bool b)
  | .number n => (numberValue? n).map .number
  | .string text => text.map .string
  | .array items closed =>
    match levels with
    | 0 => none
    | levels + 1 => if closed then (itemValues? levels items).map .array else none
  | .object members closed =>
    match levels with
    | 0 => none
    | levels + 1 => if closed then (memberValues? levels members).map .object else none
  | .broken => none

/-- The values of items. -/
def itemValues? (levels : Nat) : List Tree → Option (List Json)
  | [] => some []
  | t :: ts => (valueWithin? levels t).bind fun v => (itemValues? levels ts).map (v :: ·)

/-- The values of members. -/
def memberValues? (levels : Nat) : List (TreeText × Tree) → Option (List (String × Json))
  | [] => some []
  | (name, t) :: ms =>
    name.bind fun name => (valueWithin? levels t).bind fun v =>
      (memberValues? levels ms).map ((name, v) :: ·)

end

/-- The value of a tree. -/
def value? (t : Tree) : Option Json := t.valueWithin? maxNesting

end Tree

/-- The value of a text, if the whole text is one. -/
def Json.parse? (s : List Char) : Option Json :=
  let (t, clean) := Tree.read s
  if clean then t.value? else none

end WifiStation
