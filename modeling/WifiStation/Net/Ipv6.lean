import WifiStation.Net.Ipv4

/-!
# WifiStation.Net.Ipv6

Addresses of the Internet protocol, version 6: eight groups of sixteen bits.

* `Ipv6.render` writes groups in lower-case hexadecimal, the first longest run of at least two
  zero groups as `::`, and an IPv4-mapped address with its dotted part.
* `Ipv6.take?` reads up to eight groups of at most four digits, one `::` for at least one zero
  group, and a dotted address in the place of the last two groups.
-/

namespace WifiStation.Net

open WifiStation.Text

/-- An address of version 6: eight groups. -/
structure Ipv6 where
  /-- The groups, most significant first. -/
  groups : List UInt16
  /-- There are eight of them. -/
  length_eq : groups.length = 8
  deriving DecidableEq, Repr

namespace Ipv6

/-- The address with `front` first and `back` last, and zero groups between them. -/
def ofEnds (front back : List UInt16) : Ipv6 :=
  ⟨((front ++ List.replicate (8 - front.length - back.length) 0) ++ back ++
    List.replicate 8 0).take 8, by simp; omega⟩

/-- The unspecified address. -/
def zero : Ipv6 := ofEnds [] []

/-- The loopback address. -/
def loopback : Ipv6 := ofEnds [] [1]

/-! ### Writing -/

/-- A group in hexadecimal without leading zeros. -/
def groupText (g : UInt16) : String := String.ofList (Nat.toDigits 16 g.toNat)

/-- Groups between colons. -/
def groupsText (gs : List UInt16) : String := String.intercalate ":" (gs.map groupText)

/-- The start and length of the first longest run of zero groups, scanning from position `pos`
with the current run and the best run so far. -/
def longestZeros : Nat → Nat × Nat → Nat × Nat → List UInt16 → Nat × Nat
  | _, _, best, [] => best
  | pos, run, best, g :: rest =>
    if g = 0 then
      let run := if run.2 = 0 then (pos, 1) else (run.1, run.2 + 1)
      longestZeros (pos + 1) run (if run.2 > best.2 then run else best) rest
    else longestZeros (pos + 1) (0, 0) best rest

/-- The written form. -/
def render (a : Ipv6) : String :=
  match a.groups with
  | [0, 0, 0, 0, 0, 0xFFFF, hi, lo] =>
    "::ffff:" ++ (Ipv4.ofNat (hi.toNat * 65536 + lo.toNat)).render
  | groups =>
    let (start, len) := longestZeros 0 (0, 0) (0, 0) groups
    if len > 1 then
      groupsText (groups.take start) ++ "::" ++ groupsText (groups.drop (start + len))
    else groupsText groups

/-! ### Reading

A reader gives what it read and the text behind it. -/

/-- A run of at most `limit` digits in a base, with a value below `bound`; a longer run is
refused. -/
def takeNumber? (base limit bound : Nat) (s : List Char) : Option (Nat × List Char) :=
  let run := s.takeWhile fun c => (digit? base c).isSome
  if run.length ≤ limit then
    ((digits? base run).filter (· < bound)).map fun n => (n, s.drop run.length)
  else none

/-- A dotted address and the text behind it. -/
def takeDotted? (s : List Char) : Option (Ipv4 × List Char) :=
  let run := s.takeWhile fun c => isDigit c || c == '.'
  -- A point behind the fourth number does not belong to the address.
  let parts := (pieces '.' run).take 4
  match parts.mapM Ipv4.octet? with
  | some [a, b, c, d] =>
    some (Ipv4.ofBytes a b c d, s.drop (parts.flatten.length + 3))
  | _ => none

/-- Up to `limit` groups between colons; the flag says that a dotted address ended them. The first
group stands at the start, every further one behind a colon. -/
def takeGroups : Nat → Bool → List Char → List UInt16 × Bool × List Char
  | 0, _, s => ([], false, s)
  | limit + 1, first, s =>
    match if first then some s else after? ':' s with
    | none => ([], false, s)
    | some body =>
      match if limit > 0 then takeDotted? body else none with
      | some (a, rest) =>
        ([UInt16.ofNat (a.toNat / 65536), UInt16.ofNat a.toNat], true, rest)
      | none =>
        match takeNumber? 16 4 65536 body with
        | none => ([], false, s)
        | some (n, rest) =>
          let r := takeGroups limit false rest
          (UInt16.ofNat n :: r.1, r.2.1, r.2.2)

/-- An address and the text behind it. -/
def take? (s : List Char) : Option (Ipv6 × List Char) :=
  let (front, dotted, rest) := takeGroups 8 true s
  if front.length = 8 then some (ofEnds front [], rest)
  else if dotted then none
  else match (after? ':' rest).bind (after? ':') with
    | none => none
    | some tail =>
      let (back, _, rest) := takeGroups (8 - (front.length + 1)) true tail
      some (ofEnds front back, rest)

end Ipv6

end WifiStation.Net
