/-!
# WifiStation.Text.Utf8

Text as bytes and back. Only the shortest form of a code point is accepted, and no surrogate.

* `encode` writes characters.
* `decode?` accepts a byte string if all of it is well formed.
* `decodeLossy` reads every byte string: each longest start of a well-formed character that is not
  completed, and each byte that starts none, becomes one replacement character.

Both readers are a view of `scan`, which names what stands at each place.
-/

namespace WifiStation.Text.Utf8

/-- The bytes of a text. -/
def encode (s : List Char) : List UInt8 := s.flatMap String.utf8EncodeChar

/-- For a byte that leads a longer character: how many bytes follow, the bits it contributes, and
the least and the greatest byte that may come next. -/
def leadRule (b : Nat) : Option (Nat × Nat × Nat × Nat) :=
  if 0xC2 ≤ b ∧ b ≤ 0xDF then some (1, b - 0xC0, 0x80, 0xBF)
  else if b = 0xE0 then some (2, 0, 0xA0, 0xBF)
  else if b = 0xED then some (2, 0xD, 0x80, 0x9F)
  else if 0xE1 ≤ b ∧ b ≤ 0xEF then some (2, b - 0xE0, 0x80, 0xBF)
  else if b = 0xF0 then some (3, 0, 0x90, 0xBF)
  else if b = 0xF4 then some (3, 4, 0x80, 0x8F)
  else if 0xF1 ≤ b ∧ b ≤ 0xF3 then some (3, b - 0xF0, 0x80, 0xBF)
  else none

/-- Takes `count` bytes that continue a character, six bits each; gives the bytes not taken. -/
def takeTail : Nat → Nat → Nat → Nat → List UInt8 → Option Nat × List UInt8
  | 0, _, _, bits, rest => (some bits, rest)
  | _ + 1, _, _, _, [] => (none, [])
  | count + 1, low, high, bits, b :: rest =>
    if low ≤ b.toNat ∧ b.toNat ≤ high then
      takeTail count 0x80 0xBF (bits * 64 + (b.toNat - 0x80)) rest
    else (none, b :: rest)

/-- The character that starts with byte `b`, or `none` where none does. -/
def next (b : UInt8) (rest : List UInt8) : Option Char × List UInt8 :=
  if b.toNat < 0x80 then (some (Char.ofNat b.toNat), rest)
  else match leadRule b.toNat with
    | none => (none, rest)
    | some (count, bits, low, high) =>
      let r := takeTail count low high bits rest
      (r.1.map Char.ofNat, r.2)

theorem length_takeTail_le (count low high bits : Nat) (bs : List UInt8) :
    (takeTail count low high bits bs).2.length ≤ bs.length := by
  induction count generalizing low high bits bs with
  | zero => simp [takeTail]
  | succ n ih =>
    cases bs with
    | nil => simp [takeTail]
    | cons b rest =>
      unfold takeTail
      split
      · exact Nat.le_succ_of_le (ih _ _ _ rest)
      · simp

theorem length_next_le (b : UInt8) (rest : List UInt8) : (next b rest).2.length ≤ rest.length := by
  unfold next
  split
  · simp
  · split
    · simp
    · exact length_takeTail_le _ _ _ _ _

/-- What stands at each place of a byte string, left to right: a character, or something that is
none. -/
def scan : List UInt8 → List (Option Char)
  | [] => []
  | b :: rest => (next b rest).1 :: scan (next b rest).2
termination_by bs => bs.length
decreasing_by
  have := length_next_le b rest
  simp only [List.length_cons]
  omega

/-- The text of a well-formed byte string. -/
def decode? (bs : List UInt8) : Option (List Char) := (scan bs).mapM id

/-- The text of any byte string, with a replacement character for each malformed part. -/
def decodeLossy (bs : List UInt8) : List Char := (scan bs).map (·.getD '\uFFFD')

end WifiStation.Text.Utf8
