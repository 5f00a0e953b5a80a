import WifiStation.Toml.Lexeme

/-!
# WifiStation.Toml.Value

TOML documents as values.

A document is a list of statements: a header opens a table or adds one to an array of tables, an
assignment gives a key a value. `Toml.ofStatements?` builds the tables and refuses what would
define something twice:

* A key is assigned once, and a header opens a table once. A header may open a table that only
  longer headers have implied so far.
* A dotted key makes tables of its own, which no header opens, and adds nothing to the tables of
  headers. A table that longer headers have implied becomes a dotted key's own once such a key
  passes through it.
* An inline table and a written array are complete as they stand. Between the braces of an inline
  table, lines may end and comments may stand wherever blanks may, except around the dots of a
  key.
-/

namespace WifiStation

open WifiStation.Toml

/-- How a table has come about. -/
inductive TableOrigin where
  /-- Opened by a header. -/
  | header
  /-- Implied by a longer header. -/
  | implied
  /-- Made by a dotted key. -/
  | dotted
  /-- Written between braces. -/
  | inlined
  deriving DecidableEq, Repr, Inhabited

/-- How a table has come about, once a key has passed through it: a dotted key takes over what
headers have only implied. -/
def TableOrigin.passed (dotted : Bool) (origin : TableOrigin) : TableOrigin :=
  if dotted ∧ origin = .implied then .dotted else origin

/-- A value. Floating point numbers and dates are kept as far as readers need them. -/
inductive Toml where
  | string (s : String)
  | integer (n : Int)
  | float (kind : FloatKind)
  | boolean (b : Bool)
  | dateTime
  | array (items : List Toml)
  /-- An array of tables that headers have made. -/
  | tables (items : List (List (String × Toml)))
  | table (entries : List (String × Toml)) (origin : TableOrigin)
  deriving Repr, Inhabited

namespace Toml

/-- The entries of a table. -/
abbrev Entries := List (String × Toml)

/-- The value of a key. -/
def get? (key : String) (es : Entries) : Option Toml := (es.find? (·.1 = key)).map Prod.snd

/-- Replaces the value of a key. -/
def replace (key : String) (v : Toml) (es : Entries) : Entries :=
  es.map fun e => if e.1 = key then (key, v) else e

/-! ### Changing a table deep inside -/

/-- Changes the table at a path. On the way, missing tables are made, and the last table of an
array of tables stands for the array; a dotted key may not pass through a table that a header has
opened. -/
def update? (dotted : Bool) (f : TableOrigin → Entries → Option Entries) :
    List String → TableOrigin → Entries → Option Entries
  | [], origin, es => f origin es
  | key :: path, _, es =>
    match get? key es with
    | none =>
      let origin := if dotted then TableOrigin.dotted else .implied
      (update? dotted f path origin []).map fun sub => es ++ [(key, .table sub origin)]
    | some (.table sub origin) =>
      if origin = .inlined ∨ (dotted ∧ origin = .header) then none
      else
        let origin := origin.passed dotted
        (update? dotted f path origin sub).map fun sub => replace key (.table sub origin) es
    | some (.tables items) =>
      match items.reverse with
      | [] => none
      | last :: before => (update? dotted f path .header last).map fun sub =>
        replace key (.tables (before.reverse ++ [sub])) es
    | some _ => none

/-- Gives a key of a table a value. A table that dotted keys have made is filled by dotted keys
only, and any other by plain keys only. -/
def assign? (viaDots : Bool) (key : String) (v : Toml) (origin : TableOrigin) (es : Entries) :
    Option Entries :=
  if (origin = .dotted) ≠ viaDots then none
  else if (get? key es).isSome then none
  else some (es ++ [(key, v)])

/-- Gives a dotted key of a table a value. -/
def assignPath? (path : List String) (v : Toml) (origin : TableOrigin) (es : Entries) :
    Option Entries :=
  match path.getLast? with
  | none => none
  | some key =>
    let front := path.dropLast
    update? true (assign? (!front.isEmpty) key v) front origin es

/-- Opens a table by its header. -/
def open? (key : String) (_ : TableOrigin) (es : Entries) : Option Entries :=
  match get? key es with
  | none => some (es ++ [(key, .table [] .header)])
  | some (.table sub .implied) => some (replace key (.table sub .header) es)
  | some _ => none

/-- Adds a table to an array of tables by its header. -/
def push? (key : String) (_ : TableOrigin) (es : Entries) : Option Entries :=
  match get? key es with
  | none => some (es ++ [(key, .tables [[]])])
  | some (.tables items) => some (replace key (.tables (items ++ [[]])) es)
  | some _ => none

/-! ### Statements -/

/-- A statement of a document. -/
inductive Statement where
  | header (path : List String)
  | arrayHeader (path : List String)
  | assignment (path : List String) (v : Toml)
  deriving Repr, Inhabited

/-- Takes a statement into account. The path is that of the last header. -/
def extend? (root : Entries) (current : List String) :
    Statement → Option (Entries × List String)
  | .header path =>
    (path.getLast?.bind fun key => update? false (open? key) path.dropLast .header root).map
      fun root => (root, path)
  | .arrayHeader path =>
    (path.getLast?.bind fun key => update? false (push? key) path.dropLast .header root).map
      fun root => (root, path)
  | .assignment path v =>
    (update? false (assignPath? path v) current .header root).map fun root => (root, current)

/-- The root table of a document, on top of what its first statements have made. -/
def ofStatementsFrom? (root : Entries) (current : List String) :
    List Statement → Option Entries
  | [] => some root
  | s :: rest => (extend? root current s).bind fun r => ofStatementsFrom? r.1 r.2 rest

/-- The root table of a document. -/
def ofStatements? (statements : List Statement) : Option Entries :=
  ofStatementsFrom? [] [] statements

/-! ### Reading values -/

/-- How deep arrays and inline tables may be nested. -/
def maxNesting : Nat := 80

/-- The value of a bare scalar. -/
def scalarValue? (s : List Char) : Option Toml :=
  if s = ['t', 'r', 'u', 'e'] then some (.boolean true)
  else if s = ['f', 'a', 'l', 's', 'e'] then some (.boolean false)
  else match integer? s with
    | some n => some (.integer n)
    | none =>
      match float? s with
      | some k => some (.float k)
      | none => if isDateTime s then some .dateTime else none

mutual

/-- Reads a value. The first argument bounds the number of nested readers, the second the levels
of nesting that are left. -/
def readValue? : Nat → Nat → List Char → Option (Toml × List Char)
  | 0, _, _ => none
  | fuel + 1, levels, s =>
    match s with
    | [] => none
    | c :: rest =>
      if c = '"' ∨ c = '\'' then
        (string? s).map fun r => (.string (String.ofList r.1), r.2)
      else if c = '[' then
        match levels with
        | 0 => none
        | levels + 1 => (readItems? fuel levels rest).map fun r => (.array r.1, r.2)
      else if c = '\x7b' then
        match levels with
        | 0 => none
        | levels + 1 => (readEntries? fuel levels [] rest).map fun r => (.table r.1 .inlined, r.2)
      else
        let r := takeScalar s
        (scalarValue? r.1).map fun v => (v, r.2)

/-- Reads the items of an array up to its bracket; a comma may follow the last. -/
def readItems? : Nat → Nat → List Char → Option (List Toml × List Char)
  | 0, _, _ => none
  | fuel + 1, levels, s =>
    match skipTrivia? s.length s with
    | none => none
    | some (']' :: rest) => some ([], rest)
    | some s =>
      match readValue? fuel levels s with
      | none => none
      | some (v, rest) =>
        match skipTrivia? rest.length rest with
        | some (',' :: rest) => (readItems? fuel levels rest).map fun r => (v :: r.1, r.2)
        | some (']' :: rest) => some ([v], rest)
        | _ => none

/-- Reads the entries of an inline table up to its brace, on top of those read so far; a comma may
follow the last. -/
def readEntries? : Nat → Nat → Entries → List Char → Option (Entries × List Char)
  | 0, _, _, _ => none
  | fuel + 1, levels, es, s =>
    match skipTrivia? s.length s with
    | none => none
    | some ('\x7d' :: rest) => some (es, rest)
    | some s =>
      match readAssignment? true fuel levels s with
      | none => none
      | some (path, v, rest) =>
        match assignPath? path v .header es with
        | none => none
        | some es =>
          match skipTrivia? rest.length rest with
          | some (',' :: rest) => readEntries? fuel levels es rest
          | some ('\x7d' :: rest) => some (es, rest)
          | _ => none

/-- Reads a key path, an equals sign and a value. The first argument tells whether they stand
between braces. -/
def readAssignment? (braced : Bool) :
    Nat → Nat → List Char → Option (List String × Toml × List Char)
  | 0, _, _ => none
  | fuel + 1, levels, s =>
    match keyPath? maxKeyParts s with
    | none => none
    | some (path, rest) =>
      match skipGap? braced rest with
      | some ('=' :: rest) =>
        match skipGap? braced rest with
        | none => none
        | some rest => (readValue? fuel levels rest).map fun r => (path, r.1, r.2)
      | _ => none

end

/-! ### Reading documents -/

/-- Reads a header behind its opening brackets, up to the end of its line. -/
def readHeader? (closing : List Char) (s : List Char) : Option (List String × List Char) :=
  match keyPath? maxKeyParts (skipSpace s) with
  | none => none
  | some (path, rest) =>
    let rest := skipSpace rest
    if rest.take closing.length = closing then
      (lineEnd? (rest.drop closing.length)).map fun rest => (path, rest)
    else none

/-- Reads one statement and the rest of its line. -/
def readStatement? (s : List Char) : Option (Statement × List Char) :=
  match s with
  | '[' :: '[' :: rest => (readHeader? [']', ']'] rest).map fun r => (.arrayHeader r.1, r.2)
  | '[' :: rest => (readHeader? [']'] rest).map fun r => (.header r.1, r.2)
  | _ =>
    match readAssignment? false (4 * s.length + 4) maxNesting s with
    | none => none
    | some (path, v, rest) => (lineEnd? rest).map fun rest => (.assignment path v, rest)

/-- Reads all statements. The first argument bounds their number. -/
def readStatements? : Nat → List Char → Option (List Statement)
  | 0, _ => none
  | fuel + 1, s =>
    match skipTrivia? s.length s with
    | none => none
    | some [] => some []
    | some s =>
      match readStatement? s with
      | none => none
      | some (statement, rest) => (readStatements? fuel rest).map (statement :: ·)

/-- The root table of a text. A byte order mark at the start is skipped. -/
def parse? (s : List Char) : Option Entries :=
  let s := match s with
    | '\uFEFF' :: rest => rest
    | _ => s
  (readStatements? (s.length + 1) s).bind ofStatements?

end Toml

end WifiStation
