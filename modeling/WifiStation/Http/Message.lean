import WifiStation.Json.Value

/-!
# WifiStation.Http.Message

Requests and their responses, as far as pages look at them.
-/

namespace WifiStation.Http

/-- A request. -/
structure Request where
  method : String
  /-- The address, with what may follow a question mark. -/
  target : String
  /-- The media type of the body, if it has one. -/
  contentType : Option String := none
  body : String := ""
  deriving DecidableEq, Repr

/-- The path of an address: up to a question mark or a number sign, and without what names a
host. -/
def pathOf (target : List Char) : List Char :=
  let bare := target.takeWhile fun c => c ≠ '?' && c ≠ '#'
  match bare with
  | '/' :: _ => bare
  | _ =>
    match bare.dropWhile (· ≠ ':') with
    | ':' :: '/' :: '/' :: rest =>
      let path := rest.dropWhile (· ≠ '/')
      if path.isEmpty then ['/'] else path
    | _ => []

/-- A response. A body that is not JSON is not told. -/
structure Response where
  status : Nat
  body : Option Json := none
  deriving Repr

namespace Response

/-- Success. -/
def ok (body : Json) : Response := ⟨200, some body⟩

/-- A failure with its reason. -/
def failure (status : Nat) (reason : String) : Response :=
  ⟨status, some (.object [("error", .string reason)])⟩

end Response

end WifiStation.Http
