import WifiStation.Net.Ipv6

/-!
# WifiStation.Net.Endpoint

An address together with a port, as a server listens on it: `10.0.0.1:80`, `[::1]:80`, or
`[fe80::1%2]:80` with a scope. `Endpoint.read?` takes the whole text or nothing.
-/

namespace WifiStation.Net

open WifiStation.Text

/-- An address and a port. -/
inductive Endpoint where
  | v4 (addr : Ipv4) (port : UInt16)
  | v6 (addr : Ipv6) (scope : UInt32) (port : UInt16)
  deriving DecidableEq, Repr

namespace Endpoint

/-- The written form. A scope is shown unless it is zero. -/
def render : Endpoint → String
  | v4 addr port => s!"{addr.render}:{port}"
  | v6 addr scope port =>
    if scope = 0 then s!"[{addr.render}]:{port}" else s!"[{addr.render}%{scope}]:{port}"

/-- The colon and the port at the end of the text. -/
def port? (s : List Char) : Option UInt16 :=
  match after? ':' s with
  | none => none
  | some digits =>
    if digits.all isDigit then ((digits? 10 digits).filter (· < 65536)).map UInt16.ofNat else none

/-- Reads an address of version 4 with its port. -/
def readV4? (s : List Char) : Option Endpoint :=
  (Ipv6.takeDotted? s).bind fun (addr, rest) => (port? rest).map (v4 addr)

/-- The scope behind an address of version 6, zero if there is none. -/
def takeScope? (s : List Char) : Option (UInt32 × List Char) :=
  match s with
  | '%' :: rest =>
    let run := rest.takeWhile isDigit
    ((digits? 10 run).filter (· < 2 ^ 32)).map fun n => (UInt32.ofNat n, rest.drop run.length)
  | _ => some (0, s)

/-- Reads an address of version 6 in brackets with its port. -/
def readV6? (s : List Char) : Option Endpoint := do
  let body ← after? '[' s
  let (addr, rest) ← Ipv6.take? body
  let (scope, rest) ← takeScope? rest
  let rest ← after? ']' rest
  let port ← port? rest
  return v6 addr scope port

/-- Reads an address with its port. -/
def read? (s : List Char) : Option Endpoint := (readV4? s).or (readV6? s)

end Endpoint

end WifiStation.Net
