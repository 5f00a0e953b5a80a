import WifiStation.Net.Ipv4

/-!
# WifiStation.Proofs.Net.Prefix

What a contiguous mask says: the network of an address is told by its first bits.

* `isContiguous_iff` — the test for a contiguous mask counts bits from both ends. It passes exactly
  if the mask is the word whose top bits are set, as many of them as there are set bits in all.
* `sameNetwork_iff` — under such a mask two addresses lie in one network exactly if they agree on
  their first bits, which `front` reads as a number.
* `front_eq_of_between` — a network is an interval: what lies between two of its addresses lies in
  it. This is why it is enough to look at the ends of a range.

Positions of bits are counted from the least significant one, as the masks are read from there.
Every fact about a mask goes through `BitsFrom`: its bits from one position on are set and no
others.
-/

namespace WifiStation.Net.Ipv4

/-! ### Bits from a position on -/

/-- Of the lowest `bits` bits of a number, those from position `low` on are set and no others. -/
def BitsFrom (bits low n : Nat) : Prop := ∀ i < bits, n.testBit i = decide (low ≤ i)

namespace BitsFrom

variable {bits low n : Nat}

/-- Without the lowest bit, every other one stands one position lower. -/
theorem half (h : BitsFrom (bits + 1) low n) : BitsFrom bits (low - 1) (n / 2) := by
  intro i hi
  rw [Nat.testBit_div_two, h (i + 1) (by omega)]
  exact decide_eq_decide.mpr (by omega)

theorem mod_two (h : BitsFrom (bits + 1) low n) : n % 2 = if low = 0 then 1 else 0 := by
  have lowest := h 0 (by omega)
  rw [Nat.testBit_zero, decide_eq_decide] at lowest
  split <;> omega

/-- Without the highest bit, the others stay where they are. -/
theorem init (h : BitsFrom (bits + 1) low n) : BitsFrom bits low n :=
  fun i hi => h i (by omega)

theorem top (h : BitsFrom (bits + 1) low n) : n / 2 ^ bits % 2 = 1 ↔ low ≤ bits := by
  have highest := h bits (by omega)
  rwa [Nat.testBit_eq_decide_div_mod_eq, decide_eq_decide] at highest

/-! ### What the counts find -/

theorem setBits_eq (h : BitsFrom bits low n) : setBits bits n = bits - low := by
  induction bits generalizing low n with
  | zero => rw [setBits, Nat.zero_sub]
  | succ bits ih =>
      rw [setBits, ih h.half, h.mod_two]
      split <;> omega

theorem trailingZeros_eq (h : BitsFrom bits low n) (le : low ≤ bits) :
    trailingZeros bits n = low := by
  induction bits generalizing low n with
  | zero => rw [trailingZeros, Nat.le_zero.mp le]
  | succ bits ih =>
      rw [trailingZeros, ih h.half (by omega), h.mod_two]
      split <;> split <;> omega

theorem leadingOnes_eq (h : BitsFrom bits low n) (le : low ≤ bits) :
    leadingOnes bits n = bits - low := by
  induction bits with
  | zero => rw [leadingOnes, Nat.zero_sub]
  | succ bits ih =>
      rw [leadingOnes]
      split
      · rename_i set
        have := h.top.mp set
        rw [ih h.init this]
        omega
      · rename_i unset
        have : ¬ low ≤ bits := fun le => unset (h.top.mpr le)
        omega

end BitsFrom

/-! ### Contiguous masks -/

/-- The bits that a count of trailing zeros has passed. -/
theorem testBit_of_lt_trailingZeros {bits n i : Nat} (hi : i < trailingZeros bits n) :
    n.testBit i = false := by
  induction bits generalizing n i with
  | zero => exact absurd hi (Nat.not_lt_zero i)
  | succ bits ih =>
      rw [trailingZeros] at hi
      split at hi
      · rename_i even
        cases i with
        | zero => simp [Nat.testBit_zero, even]
        | succ i => rw [← Nat.testBit_div_two, ih (by omega)]
      · exact absurd hi (Nat.not_lt_zero i)

/-- The bits that a count of leading ones has passed. -/
theorem testBit_of_leadingOnes_le {bits n i : Nat} (hi : i < bits)
    (le : bits - leadingOnes bits n ≤ i) : n.testBit i = true := by
  induction bits with
  | zero => exact absurd hi (Nat.not_lt_zero i)
  | succ bits ih =>
      rw [leadingOnes] at le
      split at le
      · rename_i set
        by_cases hb : i = bits
        · rw [hb, Nat.testBit_eq_decide_div_mod_eq, decide_eq_true set]
        · exact ih (by omega) (by omega)
      · omega

/-- A mask is contiguous exactly if it is the word whose top bits are set, as many as its prefix is
long. -/
theorem isContiguous_iff (mask : Ipv4) :
    mask.isContiguous = true ↔ BitsFrom 32 (32 - mask.prefixLength) mask.toNat := by
  rw [isContiguous, beq_iff_eq]
  constructor
  · intro full
    -- every bit has been passed by one of the two counts
    have bits : BitsFrom 32 (trailingZeros 32 mask.toNat) mask.toNat := by
      intro i hi
      by_cases low : i < trailingZeros 32 mask.toNat
      · rw [testBit_of_lt_trailingZeros low, decide_eq_false (by omega)]
      · rw [testBit_of_leadingOnes_le hi (by omega), decide_eq_true (by omega)]
    rw [prefixLength, bits.setBits_eq]
    rwa [Nat.sub_sub_self (by omega)]
  · intro bits
    rw [bits.leadingOnes_eq (Nat.sub_le 32 _), bits.trailingZeros_eq (Nat.sub_le 32 _)]
    omega

/-! ### Networks -/

/-- The first `len` bits of an address, as a number. -/
def front (a : Ipv4) (len : Nat) : Nat := a.toNat / 2 ^ (32 - len)

/-- Two words agree under a mask exactly if they agree from its first set bit on. -/
theorem and_eq_and_iff {low m a b : Nat} (bits : BitsFrom 32 low m) (hm : m < 2 ^ 32)
    (ha : a < 2 ^ 32) (hb : b < 2 ^ 32) :
    a &&& m = b &&& m ↔ a / 2 ^ low = b / 2 ^ low := by
  have beyond : ∀ {x i : Nat}, x < 2 ^ 32 → 32 ≤ i → x.testBit i = false := fun hx hi =>
    Nat.testBit_lt_two_pow (Nat.lt_of_lt_of_le hx (Nat.pow_le_pow_right (by omega) hi))
  constructor
  · intro same
    apply Nat.eq_of_testBit_eq
    intro i
    rw [Nat.testBit_div_two_pow, Nat.testBit_div_two_pow]
    by_cases hi : i + low < 32
    · have := congrArg (Nat.testBit · (i + low)) same
      simpa [Nat.testBit_and, bits (i + low) hi] using this
    · rw [beyond ha (by omega), beyond hb (by omega)]
  · intro same
    apply Nat.eq_of_testBit_eq
    intro i
    rw [Nat.testBit_and, Nat.testBit_and]
    by_cases hi : i < 32
    · rw [bits i hi]
      by_cases hl : low ≤ i
      · have := congrArg (Nat.testBit · (i - low)) same
        simp only [Nat.testBit_div_two_pow, Nat.sub_add_cancel hl] at this
        rw [this]
      · simp [hl]
    · rw [beyond hm (by omega), Bool.and_false, Bool.and_false]

theorem sameNetwork_iff {mask : Ipv4} (h : mask.isContiguous = true) (a b : Ipv4) :
    mask.sameNetwork a b = true ↔ a.front mask.prefixLength = b.front mask.prefixLength := by
  rw [sameNetwork, beq_iff_eq, ← UInt32.toNat_inj, UInt32.toNat_and, UInt32.toNat_and]
  exact and_eq_and_iff ((isContiguous_iff mask).mp h) mask.toNat_lt a.toNat_lt b.toNat_lt

theorem front_eq_of_between {a x b : Ipv4} {len : Nat} (same : a.front len = b.front len)
    (lower : a.toNat ≤ x.toNat) (upper : x.toNat ≤ b.toNat) : x.front len = a.front len := by
  have h₁ : a.front len ≤ x.front len := Nat.div_le_div_right lower
  have h₂ : x.front len ≤ b.front len := Nat.div_le_div_right upper
  omega

end WifiStation.Net.Ipv4
