import WifiStation.Text.Utf8

/-!
# WifiStation.Place

What stands at a path where a file is looked for, and what reading and writing there gives.

A write replaces the whole file or changes nothing.
-/

namespace WifiStation

open WifiStation.Text

/-- What stands at a path. -/
inductive Place where
  /-- Nothing, but a file can be made. -/
  | absent
  /-- Nothing, and there is no directory to make a file in. -/
  | unreachable
  | directory
  | file (content : List UInt8)
  deriving DecidableEq, Repr, Inhabited

/-- Why a file cannot be read or written. -/
inductive PlaceError where
  | notFound
  | isADirectory
  /-- The content is not UTF-8. -/
  | invalidData
  deriving DecidableEq, Repr, Inhabited

/-- The error as text. -/
def PlaceError.message : PlaceError → String
  | notFound => "No such file or directory (os error 2)"
  | isADirectory => "Is a directory (os error 21)"
  | invalidData => "stream did not contain valid UTF-8"

namespace Place

/-- The text of a file. -/
def readText : Place → Except PlaceError String
  | absent | unreachable => .error .notFound
  | directory => .error .isADirectory
  | file content =>
    match Utf8.decode? content with
    | some s => .ok (String.ofList s)
    | none => .error .invalidData

/-- With a file of a content. -/
def write (content : List UInt8) : Place → Except PlaceError Place
  | unreachable => .error .notFound
  | directory => .error .isADirectory
  | _ => .ok (.file content)

/-- A path in the current directory without the dot and the slash it may start with. -/
def localName (path : String) : String :=
  match path.toList with
  | '.' :: '/' :: rest => String.ofList rest
  | _ => path

/-- What stands at a path, seen from a directory that holds some files and nothing else. -/
def inDirectory (files : List (String × List UInt8)) (path : String) : Place :=
  let name := localName path
  if name ∈ [".", "..", "/"] then .directory
  else match files.lookup name with
    | some content => .file content
    | none => if '/' ∈ name.toList then .unreachable else .absent

/-- Without the file, if there is one. -/
def remove : Place → Except PlaceError Place
  | absent | unreachable => .error .notFound
  | directory => .error .isADirectory
  | file _ => .ok .absent

end Place

end WifiStation
