import WifiStation.Text.Utf8

/-!
# WifiStation.Proofs.Text.Utf8

What is written as bytes is read back.

`next_encode` is the fact about one character: the first byte says how many follow, and each of
those carries six bits. That a form is the shortest, and no surrogate, is in the bounds of the first
byte that follows (`leadRule_three`, `leadRule_four`). Over whole texts, `scan` finds exactly the
characters that were written, so both readers give the text back.
-/

namespace WifiStation.Text.Utf8

/-- The byte that carries the last six bits of a number. -/
def tailByte (n : Nat) : UInt8 := UInt8.ofNat (n % 64 + 128)

@[simp] theorem toNat_tailByte (n : Nat) : (tailByte n).toNat = n % 64 + 128 := by
  rw [tailByte, UInt8.toNat_ofNat_of_lt' (by simp only [UInt8.size]; omega)]

/-- A byte within the bounds adds its six bits. -/
theorem takeTail_tailByte {low high n : Nat} (count bits : Nat) (rest : List UInt8)
    (least : low ≤ n % 64 + 128) (most : n % 64 + 128 ≤ high) :
    takeTail (count + 1) low high bits (tailByte n :: rest) =
      takeTail count 0x80 0xBF (bits * 64 + n % 64) rest := by
  rw [takeTail, toNat_tailByte, if_pos ⟨least, most⟩, Nat.add_sub_cancel]

/-- Any six bits will do for a byte that is not the first to follow. -/
theorem takeTail_tailByte_free (count bits n : Nat) (rest : List UInt8) :
    takeTail (count + 1) 0x80 0xBF bits (tailByte n :: rest) =
      takeTail count 0x80 0xBF (bits * 64 + n % 64) rest :=
  takeTail_tailByte count bits rest (by omega) (by omega)

/-! ### First bytes -/

theorem leadRule_two {b : Nat} (least : 0xC2 ≤ b) (most : b ≤ 0xDF) :
    leadRule b = some (1, b - 0xC0, 0x80, 0xBF) := by
  rw [leadRule, if_pos ⟨least, most⟩]

/-- The first of three bytes, for a number that needs three and is no surrogate. -/
theorem leadRule_three {v : Nat} (least : 0x800 ≤ v) (most : v ≤ 0xFFFF)
    (scalar : v < 0xD800 ∨ 0xDFFF < v) :
    ∃ low high, leadRule (v / 4096 + 0xE0) = some (2, v / 4096, low, high) ∧
      low ≤ v / 64 % 64 + 128 ∧ v / 64 % 64 + 128 ≤ high := by
  unfold leadRule
  rw [if_neg (by omega)]
  split
  · have bits : v / 4096 = 0 := by omega
    exact ⟨0xA0, 0xBF, by rw [bits], by omega, by omega⟩
  split
  · have bits : v / 4096 = 0xD := by omega
    exact ⟨0x80, 0x9F, by rw [bits], by omega, by omega⟩
  rw [if_pos (by omega), Nat.add_sub_cancel]
  exact ⟨0x80, 0xBF, rfl, by omega, by omega⟩

/-- The first of four bytes, for a number that needs four and is a code point. -/
theorem leadRule_four {v : Nat} (least : 0x10000 ≤ v) (most : v < 0x110000) :
    ∃ low high, leadRule (v / 262144 + 0xF0) = some (3, v / 262144, low, high) ∧
      low ≤ v / 4096 % 64 + 128 ∧ v / 4096 % 64 + 128 ≤ high := by
  unfold leadRule
  rw [if_neg (by omega), if_neg (by omega), if_neg (by omega), if_neg (by omega)]
  split
  · have bits : v / 262144 = 0 := by omega
    exact ⟨0x90, 0xBF, by rw [bits], by omega, by omega⟩
  split
  · have bits : v / 262144 = 4 := by omega
    exact ⟨0x80, 0x8F, by rw [bits], by omega, by omega⟩
  rw [if_pos (by omega), Nat.add_sub_cancel]
  exact ⟨0x80, 0xBF, rfl, by omega, by omega⟩

/-! ### Characters and texts -/

/-- The first byte that is found for a character is read as that character, and nothing behind it is
taken. -/
theorem next_encode (c : Char) (rest : List UInt8) :
    ∃ b tail, String.utf8EncodeChar c = b :: tail ∧ next b (tail ++ rest) = (some c, rest) := by
  have self : Char.ofNat c.val.toNat = c := Char.ofNat_toNat c
  have valid : c.val.toNat < 0xD800 ∨ 0xDFFF < c.val.toNat ∧ c.val.toNat < 0x110000 := c.valid
  rw [String.utf8EncodeChar]
  generalize c.val.toNat = v at self valid
  split
  · -- one byte
    refine ⟨_, [], rfl, ?_⟩
    rw [next, UInt8.toNat_ofNat_of_lt' (by simp only [UInt8.size]; omega), if_pos (by omega), self]
    rfl
  split
  · -- two bytes
    refine ⟨_, [tailByte v], rfl, ?_⟩
    rw [next, UInt8.toNat_ofNat_of_lt' (by simp only [UInt8.size]; omega), if_neg (by omega),
      leadRule_two (by omega) (by omega)]
    dsimp only [List.cons_append, List.nil_append]
    rw [takeTail_tailByte_free, takeTail]
    have value : (v / 64 % 32 + 192 - 0xC0) * 64 + v % 64 = v := by omega
    rw [value, Option.map_some, self]
  split
  · -- three bytes
    refine ⟨_, [tailByte (v / 64), tailByte v], rfl, ?_⟩
    obtain ⟨low, high, rule, least, most⟩ := leadRule_three (v := v) (by omega) (by omega) (by omega)
    rw [next, UInt8.toNat_ofNat_of_lt' (by simp only [UInt8.size]; omega), if_neg (by omega),
      Nat.mod_eq_of_lt (by omega : v / 4096 < 16), rule]
    dsimp only [List.cons_append, List.nil_append]
    rw [takeTail_tailByte _ _ _ least most, takeTail_tailByte_free, takeTail]
    have value : (v / 4096 * 64 + v / 64 % 64) * 64 + v % 64 = v := by omega
    rw [value, Option.map_some, self]
  · -- four bytes
    refine ⟨_, [tailByte (v / 4096), tailByte (v / 64), tailByte v], rfl, ?_⟩
    obtain ⟨low, high, rule, least, most⟩ := leadRule_four (v := v) (by omega) (by omega)
    rw [next, UInt8.toNat_ofNat_of_lt' (by simp only [UInt8.size]; omega), if_neg (by omega),
      Nat.mod_eq_of_lt (by omega : v / 262144 < 8), rule]
    dsimp only [List.cons_append, List.nil_append]
    rw [takeTail_tailByte _ _ _ least most, takeTail_tailByte_free, takeTail_tailByte_free, takeTail]
    have value : ((v / 262144 * 64 + v / 4096 % 64) * 64 + v / 64 % 64) * 64 + v % 64 = v := by
      omega
    rw [value, Option.map_some, self]

/-- At each place of a text that was written stands its character. -/
theorem scan_encode (s : List Char) : scan (encode s) = s.map some := by
  induction s with
  | nil => rw [encode, List.flatMap_nil, scan, List.map_nil]
  | cons c rest ih =>
      obtain ⟨b, tail, written, read⟩ := next_encode c (encode rest)
      rw [encode, List.flatMap_cons, ← encode, written, List.cons_append, scan, read, ih,
        List.map_cons]

/-- The strict reader gives back every text. -/
theorem decode?_encode (s : List Char) : decode? (encode s) = some s := by
  rw [decode?, scan_encode]
  induction s with
  | nil => rfl
  | cons c rest ih => simp only [List.map_cons, List.mapM_cons, ih, id]; rfl

/-- The lenient reader gives back every text, without a replacement. -/
theorem decodeLossy_encode (s : List Char) : decodeLossy (encode s) = s := by
  rw [decodeLossy, scan_encode, List.map_map]
  exact List.map_id s

end WifiStation.Text.Utf8
