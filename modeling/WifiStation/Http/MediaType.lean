import WifiStation.Text.Split

/-!
# WifiStation.Http.MediaType

Media types as a header says them: `type/subtype+suffix; name=value`.

Only whether a body is JSON is asked of them, which `isJson` answers: the type is `application`,
and the subtype or the suffix is `json`, letters in either case. A text that is no media type,
also for its parameters, is not JSON.
-/

namespace WifiStation.Http.MediaType

open WifiStation.Text

/-- A character of a token. -/
def isTokenChar (c : Char) : Bool :=
  c.isAlphanum || "!#$%&'*+-.^_|~".toList.contains c || c = '\x60'

/-- A character that may stand in quotes. -/
def isQuotable (c : Char) : Bool := 0x1F < c.toNat && c.toNat ≠ 0x7F

/-- The text behind a value: a token, which may be empty at the end of the text, or one or more
characters in quotes with blanks behind them. -/
def afterValue? (s : List Char) : Option (List Char) :=
  match s with
  | ['"'] => none
  | '"' :: c :: rest =>
    match rest.dropWhile fun c => isQuotable c && c ≠ '"' with
    | '"' :: behind => if isQuotable c then some (behind.dropWhile (· = ' ')) else none
    | _ => none
  | [] => some []
  | c :: rest => if isTokenChar c then some (rest.dropWhile isTokenChar) else none

/-- The text behind a parameter and the blanks before it; nothing is read of an empty text. -/
def afterParameter? (s : List Char) : Option (List Char) :=
  match s.dropWhile (· = ' ') with
  | [] => some []
  | body =>
    match body.dropWhile isTokenChar with
    | '=' :: value => if (body.takeWhile isTokenChar).isEmpty then none else afterValue? value
    | _ => none

/-- Whether a text is a list of parameters. The first argument bounds their number. -/
def areParameters : Nat → List Char → Bool
  | 0, _ => false
  | fuel + 1, s =>
    match afterParameter? s with
    | none => false
    | some [] => true
    | some (';' :: rest) => areParameters fuel rest
    | some _ => false

/-- Letters in lower case. -/
def lower (s : List Char) : List Char := s.map Char.toLower

/-- The part behind the last plus, and the part before it. A plus at the start is none. -/
def splitSuffix (subtype : List Char) : List Char × Option (List Char) :=
  let suffix := (subtype.reverse.takeWhile (· ≠ '+')).reverse
  let before := subtype.take (subtype.length - suffix.length - 1)
  if suffix.length = subtype.length ∨ before.isEmpty then (subtype, none)
  else (before, some suffix)

/-- Whether a text is a media type of JSON. -/
def isJson (s : String) : Bool :=
  let chars := s.toList
  let type := chars.takeWhile isTokenChar
  match chars.dropWhile isTokenChar with
  | '/' :: rest =>
    let subtype := rest.takeWhile isTokenChar
    let (base, suffix) := splitSuffix (lower subtype)
    let json := ['j', 's', 'o', 'n']
    let wellFormed := match rest.dropWhile isTokenChar with
      | [] => true
      | ';' :: parameters => !subtype.isEmpty && areParameters (parameters.length + 1) parameters
      | _ => false
    wellFormed && String.ofList (lower type) = "application" && (base = json || suffix = some json)
  | _ => false

end WifiStation.Http.MediaType
