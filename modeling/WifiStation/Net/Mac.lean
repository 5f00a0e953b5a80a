import WifiStation.Text.Number
import WifiStation.Text.Split
import WifiStation.Text.Quoted

/-!
# WifiStation.Net.Mac

Hardware addresses: six bytes, written as six two-digit hexadecimal groups between colons.

* `Mac.render` writes lower case.
* `Mac.read?` takes six groups of two bytes each. A group is read as an unsigned number, so its
  first byte may also be a plus sign: `+f` is the byte 15.
* Addresses are ordered as the numbers their bytes spell (`Mac.value`).
-/

namespace WifiStation.Net

open WifiStation.Text

/-- A hardware address. -/
structure Mac where
  /-- The first byte, which also holds the group and locality bits. -/
  b0 : UInt8
  b1 : UInt8
  b2 : UInt8
  b3 : UInt8
  b4 : UInt8
  b5 : UInt8
  deriving DecidableEq, Repr, Inhabited, Hashable

namespace Mac

/-- The address of six zero bytes. -/
def zero : Mac := ⟨0, 0, 0, 0, 0, 0⟩

/-- The bytes in order. -/
def toBytes (m : Mac) : List UInt8 := [m.b0, m.b1, m.b2, m.b3, m.b4, m.b5]

/-- The address of exactly six bytes. -/
def ofBytes? : List UInt8 → Option Mac
  | [b0, b1, b2, b3, b4, b5] => some ⟨b0, b1, b2, b3, b4, b5⟩
  | _ => none

@[simp] theorem ofBytes?_toBytes (m : Mac) : ofBytes? m.toBytes = some m := rfl

theorem toBytes_injective {m n : Mac} (h : m.toBytes = n.toBytes) : m = n := by
  have := congrArg ofBytes? h
  simpa using this

/-- The number the bytes spell, most significant first. -/
def value (m : Mac) : Nat := m.toBytes.foldl (fun n b => n * 256 + b.toNat) 0

theorem value_injective {m n : Mac} (h : m.value = n.value) : m = n := by
  obtain ⟨a0, a1, a2, a3, a4, a5⟩ := m
  obtain ⟨b0, b1, b2, b3, b4, b5⟩ := n
  simp only [value, toBytes, List.foldl_cons, List.foldl_nil] at h
  have := a0.toNat_lt; have := a1.toNat_lt; have := a2.toNat_lt
  have := a3.toNat_lt; have := a4.toNat_lt; have := a5.toNat_lt
  have := b0.toNat_lt; have := b1.toNat_lt; have := b2.toNat_lt
  have := b3.toNat_lt; have := b4.toNat_lt; have := b5.toNat_lt
  simp only [mk.injEq, ← UInt8.toNat_inj]
  omega

/-! ### Text -/

/-- A byte as two lower-case hexadecimal digits. -/
def hexByte (b : UInt8) : List Char :=
  [Nat.digitChar (b.toNat / 16), Nat.digitChar (b.toNat % 16)]

/-- Puts `sep` between neighbours. -/
def joined (sep : Char) : List (List Char) → List Char
  | [] => []
  | [p] => p
  | p :: ps => p ++ sep :: joined sep ps

/-- The written form, lower case. -/
def toChars (m : Mac) : List Char := joined ':' (m.toBytes.map hexByte)

/-- The written form, lower case. -/
def render (m : Mac) : String := String.ofList m.toChars

/-- One group: two characters that are an unsigned hexadecimal number. -/
def byte? : List Char → Option UInt8
  | [hi, lo] => (unsigned? 16 256 [hi, lo]).map UInt8.ofNat
  | _ => none

/-- Reads six groups between colons. -/
def read? (s : List Char) : Option Mac := ((pieces ':' s).mapM byte?).bind ofBytes?

end Mac

end WifiStation.Net
