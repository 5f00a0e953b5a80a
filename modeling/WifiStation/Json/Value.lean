import WifiStation.Decimal.Shortest

/-!
# WifiStation.Json.Value

Values of the JSON data format, and their text.

* An object is a list of members in order. A writer of a report gives the order; `Json.sorted`
  puts members in the order of their names.
* `Json.pretty` writes two spaces of indentation a level, one member or item a line, and an empty
  array or object as its two brackets.
* Strings escape the quote, the backslash and the C0 controls, and nothing else.
* `Real.render` writes the fewest digits that read back, positionally from `1e-5` up to below
  `1e16`.
-/

namespace WifiStation

/-- A finite floating point number with its sign. -/
structure Real64 where
  negative : Bool
  magnitude : Decimal.Magnitude
  deriving DecidableEq, Repr, Inhabited

/-- A number: whole, or floating point. -/
inductive JsonNumber where
  | int (n : Int)
  | real (x : Real64)
  deriving DecidableEq, Repr, Inhabited

/-- A value. -/
inductive Json where
  | null
  | bool (b : Bool)
  | number (n : JsonNumber)
  | string (s : String)
  | array (items : List Json)
  | object (members : List (String × Json))
  deriving Repr, Inhabited

namespace Json

/-- A whole number. -/
def nat (n : Nat) : Json := .number (.int n)

@[simp] theorem nat_inj {m n : Nat} : nat m = nat n ↔ m = n := by
  simp only [nat, Json.number.injEq, JsonNumber.int.injEq, Int.ofNat_inj]

/-- A whole number. -/
def int (n : Int) : Json := .number (.int n)

/-- The value of a member; of several with one name the last. -/
def member? (name : String) : Json → Option Json
  | object members => (members.reverse.find? (·.1 = name)).map Prod.snd
  | _ => none

/-- The text of a string. -/
def string? : Json → Option String
  | string s => some s
  | _ => none

/-- The items of an array. -/
def array? : Json → Option (List Json)
  | array items => some items
  | _ => none

/-! ### Text of scalars -/

/-- A code unit as four lower-case hexadecimal digits. -/
def hex4 (n : Nat) : List Char :=
  [n / 4096 % 16, n / 256 % 16, n / 16 % 16, n % 16].map Nat.digitChar

/-- How a character is written in a string. -/
def escapeChar (c : Char) : List Char :=
  if c = '"' then ['\\', '"']
  else if c = '\\' then ['\\', '\\']
  else if c.toNat = 8 then ['\\', 'b']
  else if c.toNat = 9 then ['\\', 't']
  else if c.toNat = 10 then ['\\', 'n']
  else if c.toNat = 12 then ['\\', 'f']
  else if c.toNat = 13 then ['\\', 'r']
  else if c.toNat < 0x20 then '\\' :: 'u' :: hex4 c.toNat
  else [c]

/-- A string in quotes. -/
def quoted (s : String) : List Char := '"' :: s.toList.flatMap escapeChar ++ ['"']

end Json

/-- The largest number of places before the point that is written positionally. -/
def Real64.maxWhole : Int := 16

/-- The least position of the first digit behind the point that is written positionally. -/
def Real64.minFraction : Int := -5

/-- The text of a floating point number. -/
def Real64.render (x : Real64) : List Char :=
  let sign := if x.negative then ['-'] else []
  let s := x.magnitude.shortest
  let digits := Nat.toDigits 10 s.digits
  let count : Int := digits.length
  let point := count + s.exponent
  let body :=
    if s.digits = 0 then ['0', '.', '0']
    else if 0 ≤ s.exponent && point ≤ maxWhole then
      digits ++ List.replicate s.exponent.toNat '0' ++ ['.', '0']
    else if 0 < point && point ≤ maxWhole then
      digits.take point.toNat ++ '.' :: digits.drop point.toNat
    else if minFraction < point && point ≤ 0 then
      '0' :: '.' :: List.replicate (-point).toNat '0' ++ digits
    else
      let exponent := 'e' :: (toString (point - 1)).toList
      match digits with
      | [d] => d :: exponent
      | d :: ds => d :: '.' :: ds ++ exponent
      | [] => exponent
  sign ++ body

/-- The text of a number. -/
def JsonNumber.render : JsonNumber → List Char
  | int n => (toString n).toList
  | real x => x.render

namespace Json

/-! ### Text of values -/

/-- A line break followed by two spaces a level. -/
def newline (level : Nat) : List Char := '\n' :: List.replicate (2 * level) ' '

mutual

/-- The text of a value on one line, without spaces. -/
def compactChars : Json → List Char
  | null => "null".toList
  | bool true => "true".toList
  | bool false => "false".toList
  | number n => n.render
  | string s => quoted s
  | array items => '[' :: compactItems items ++ [']']
  | object members => '\x7b' :: compactMembers members ++ ['\x7d']

/-- Items with commas between them. -/
def compactItems : List Json → List Char
  | [] => []
  | [v] => compactChars v
  | v :: vs => compactChars v ++ ',' :: compactItems vs

/-- Members with commas between them. -/
def compactMembers : List (String × Json) → List Char
  | [] => []
  | [(name, v)] => quoted name ++ ':' :: compactChars v
  | (name, v) :: ms => quoted name ++ ':' :: compactChars v ++ ',' :: compactMembers ms

end

mutual

/-- The text of a value over several lines, starting at a level. -/
def prettyChars (level : Nat) : Json → List Char
  | null => "null".toList
  | bool true => "true".toList
  | bool false => "false".toList
  | number n => n.render
  | string s => quoted s
  | array [] => ['[', ']']
  | array (v :: vs) => '[' :: prettyItems (level + 1) (v :: vs) ++ newline level ++ [']']
  | object [] => ['\x7b', '\x7d']
  | object (m :: ms) =>
    '\x7b' :: prettyMembers (level + 1) (m :: ms) ++ newline level ++ ['\x7d']

/-- Items, each on a line of its own. -/
def prettyItems (level : Nat) : List Json → List Char
  | [] => []
  | [v] => newline level ++ prettyChars level v
  | v :: vs => newline level ++ prettyChars level v ++ ',' :: prettyItems level vs

/-- Members, each on a line of its own. -/
def prettyMembers (level : Nat) : List (String × Json) → List Char
  | [] => []
  | [(name, v)] => newline level ++ quoted name ++ ':' :: ' ' :: prettyChars level v
  | (name, v) :: ms =>
    newline level ++ quoted name ++ ':' :: ' ' :: prettyChars level v ++
      ',' :: prettyMembers level ms

end

/-- The text of a value on one line. -/
def compact (v : Json) : String := String.ofList v.compactChars

/-- The text of a value over several lines. -/
def pretty (v : Json) : String := String.ofList (v.prettyChars 0)

/-! ### Order of members -/

/-- Puts a member among members that are sorted by name; one of the same name is replaced. -/
def insertMember (name : String) (v : Json) : List (String × Json) → List (String × Json)
  | [] => [(name, v)]
  | (other, w) :: ms =>
    if name = other then (name, v) :: ms
    else if name < other then (name, v) :: (other, w) :: ms
    else (other, w) :: insertMember name v ms

mutual

/-- The value with the members of every object sorted by name, of several with one name the
last. -/
def sorted : Json → Json
  | array items => array (sortedItems items)
  | object members => object (sortedMembers [] members)
  | v => v

/-- Sorts in each item. -/
def sortedItems : List Json → List Json
  | [] => []
  | v :: vs => sorted v :: sortedItems vs

/-- Adds members one after the other to those that are sorted already. -/
def sortedMembers (done : List (String × Json)) : List (String × Json) → List (String × Json)
  | [] => done
  | (name, v) :: ms => sortedMembers (insertMember name (sorted v) done) ms

end

end Json

end WifiStation
