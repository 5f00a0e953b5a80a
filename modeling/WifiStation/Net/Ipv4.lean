import WifiStation.Text.Number
import WifiStation.Text.Split

/-!
# WifiStation.Net.Ipv4

Addresses of the Internet protocol, version 4, as 32-bit words.

* `Ipv4.toBytes` and `Ipv4.ofBytes` are the network order.
* `Ipv4.render` is the dotted form and `Ipv4.read?` reads exactly that form: four decimal numbers
  up to 255 without leading zeros.
* `prefixLength` is the number of set bits of a mask, `isContiguous` says that they come first.
-/

namespace WifiStation.Net

open WifiStation.Text

/-- An address of version 4. -/
structure Ipv4 where
  /-- The address as a number, most significant byte first. -/
  word : UInt32
  deriving DecidableEq, Repr, Inhabited, Hashable

namespace Ipv4

/-- The unspecified address `0.0.0.0`. -/
def zero : Ipv4 := ⟨0⟩

/-- The address of a number, reduced to 32 bits. -/
def ofNat (n : Nat) : Ipv4 := ⟨UInt32.ofNat n⟩

/-- The address as a number. -/
def toNat (a : Ipv4) : Nat := a.word.toNat

theorem toNat_lt (a : Ipv4) : a.toNat < 2 ^ 32 := a.word.toNat_lt

theorem toNat_inj {a b : Ipv4} : a.toNat = b.toNat ↔ a = b := by
  cases a; cases b; simp [toNat, UInt32.toNat_inj]

@[simp] theorem ofNat_toNat (a : Ipv4) : ofNat a.toNat = a := by
  cases a; simp [ofNat, toNat]

theorem toNat_ofNat (n : Nat) : (ofNat n).toNat = n % 2 ^ 32 := by
  simp [ofNat, toNat]

/-! ### Bytes -/

/-- The address of four bytes in network order. -/
def ofBytes (a b c d : UInt8) : Ipv4 :=
  ofNat (((a.toNat * 256 + b.toNat) * 256 + c.toNat) * 256 + d.toNat)

/-- The byte of weight `256 ^ k`. -/
def byte (a : Ipv4) (k : Nat) : UInt8 := UInt8.ofNat (a.toNat / 256 ^ k)

/-- The four bytes in network order. -/
def toBytes (a : Ipv4) : List UInt8 := [a.byte 3, a.byte 2, a.byte 1, a.byte 0]

@[simp] theorem length_toBytes (a : Ipv4) : a.toBytes.length = 4 := rfl

theorem ofBytes_byte (a : Ipv4) : ofBytes (a.byte 3) (a.byte 2) (a.byte 1) (a.byte 0) = a := by
  have := a.toNat_lt
  apply toNat_inj.1
  simp only [ofBytes, toNat_ofNat, byte, UInt8.toNat_ofNat']
  omega

theorem toBytes_ofBytes (a b c d : UInt8) : (ofBytes a b c d).toBytes = [a, b, c, d] := by
  have := a.toNat_lt; have := b.toNat_lt; have := c.toNat_lt; have := d.toNat_lt
  simp only [toBytes, byte, ofBytes, toNat_ofNat, List.cons.injEq, and_true, ← UInt8.toNat_inj,
    UInt8.toNat_ofNat']
  omega

/-! ### Text -/

/-- The written form: four decimal numbers between points. -/
def render (a : Ipv4) : String :=
  s!"{a.byte 3}.{a.byte 2}.{a.byte 1}.{a.byte 0}"

/-- A decimal number up to 255 without a leading zero. -/
def octet? (s : List Char) : Option UInt8 :=
  if s.length ≤ 3 && !(s.head? == some '0' && s.length > 1) && s.all isDigit then
    ((digits? 10 s).filter (· < 256)).map UInt8.ofNat
  else none

/-- Reads the dotted form. -/
def read? (s : List Char) : Option Ipv4 :=
  match (pieces '.' s).mapM octet? with
  | some [a, b, c, d] => some (ofBytes a b c d)
  | _ => none

/-! ### Masks -/

/-- The number of set bits among the lowest `bits` bits. -/
def setBits : Nat → Nat → Nat
  | 0, _ => 0
  | bits + 1, n => n % 2 + setBits bits (n / 2)

/-- The length of the network part that a mask stands for: its number of set bits. -/
def prefixLength (mask : Ipv4) : Nat := setBits 32 mask.toNat

/-- The number of set bits above the first unset one, of `bits` bits. -/
def leadingOnes : Nat → Nat → Nat
  | 0, _ => 0
  | bits + 1, n => if n / 2 ^ bits % 2 = 1 then leadingOnes bits n + 1 else 0

/-- The number of unset bits below the last set one, of `bits` bits. -/
def trailingZeros : Nat → Nat → Nat
  | 0, _ => 0
  | bits + 1, n => if n % 2 = 0 then trailingZeros bits (n / 2) + 1 else 0

/-- Whether the set bits of a mask all come first: behind the leading ones there is nothing but
trailing zeros. -/
def isContiguous (mask : Ipv4) : Bool :=
  leadingOnes 32 mask.toNat + trailingZeros 32 mask.toNat == 32

/-- Whether two addresses agree where the mask has a bit. -/
def sameNetwork (mask a b : Ipv4) : Bool := a.word &&& mask.word == b.word &&& mask.word

end Ipv4

end WifiStation.Net
