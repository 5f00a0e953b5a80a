import WifiStation.Text.Number

/-!
# WifiStation.Proofs.Text.Number

Numbers are read as they were written, and what is written is digits and nothing else.

The digits of a number are those of its tenth with one more behind them, which is the recursion that
both facts follow; a reader that continues from a value takes that last digit the same way
(`accumulate?_append`).

Whatever is read is digits in the first place (`digits?_eq_some_iff`), with a sign in front of them
where a sign is allowed (`signed?_eq_some_iff`), and its value is the one that the library gives to
the digits.
-/

namespace WifiStation.Text

theorem accumulate?_append (base n : Nat) (s more : List Char) :
    accumulate? base n (s ++ more) = (accumulate? base n s).bind (accumulate? base · more) := by
  induction s generalizing n with
  | nil => rfl
  | cons c rest ih =>
      rw [List.cons_append, accumulate?, accumulate?]
      cases digit? base c with
      | none => rfl
      | some d => exact ih _

theorem digit?_digitChar : ∀ d < 10, digit? 10 d.digitChar = some d := by decide

theorem isDigit_digitChar : ∀ d < 10, isDigit d.digitChar = true := by decide

theorem toNat_digitChar : ∀ d < 10, d.digitChar.toNat = 48 + d := by decide

/-- A digit is read from no character but the one it is written as. -/
theorem digit?_eq_some_iff {c : Char} {d : Nat} :
    digit? 10 c = some d ↔ d < 10 ∧ c = d.digitChar := by
  constructor
  · intro h
    obtain ⟨value, below⟩ := Option.filter_eq_some_iff.mp h
    have small : d < 10 := of_decide_eq_true below
    refine ⟨small, Char.toNat_inj.mp ?_⟩
    rw [toNat_digitChar d small]
    -- letters stand for values from ten on
    grind
  · rintro ⟨small, rfl⟩
    exact digit?_digitChar d small

/-- The digits of a number that has more than one. -/
theorem toDigits_tenth {n : Nat} (h : 10 ≤ n) :
    Nat.toDigits 10 n = Nat.toDigits 10 (n / 10) ++ [(n % 10).digitChar] :=
  Nat.toDigits_of_base_le (by decide) h

theorem accumulate?_toDigits (n : Nat) : accumulate? 10 0 (Nat.toDigits 10 n) = some n := by
  induction n using Nat.strongRecOn with
  | ind n ih =>
    rcases Nat.lt_or_ge n 10 with small | large
    · rw [Nat.toDigits_of_lt_base small, accumulate?, digit?_digitChar n small]
      simp [accumulate?]
    · rw [toDigits_tenth large, accumulate?_append, ih (n / 10) (by omega), Option.bind_some,
        accumulate?, digit?_digitChar _ (Nat.mod_lt n (by decide))]
      dsimp only
      rw [accumulate?, Nat.div_add_mod']

theorem isDigit_toDigits (n : Nat) : ∀ c ∈ Nat.toDigits 10 n, isDigit c = true := by
  induction n using Nat.strongRecOn with
  | ind n ih =>
    intro c hc
    rcases Nat.lt_or_ge n 10 with small | large
    · rw [Nat.toDigits_of_lt_base small, List.mem_singleton] at hc
      rw [hc]
      exact isDigit_digitChar n small
    · rw [toDigits_tenth large, List.mem_append, List.mem_singleton] at hc
      rcases hc with hc | rfl
      · exact ih (n / 10) (by omega) c hc
      · exact isDigit_digitChar _ (Nat.mod_lt n (by decide))

/-- A number is read as it was written. -/
theorem digits?_toDigits (n : Nat) : digits? 10 (Nat.toDigits 10 n) = some n := by
  rw [digits?, if_neg (by simp [Nat.toDigits_ne_nil]), accumulate?_toDigits]

/-! ### What is read as a number -/

/-- A text of decimal digits, at least one. -/
structure IsDigits (s : List Char) : Prop where
  ne_nil : s ≠ []
  digits : ∀ c ∈ s, isDigit c = true

/-- The number that decimal digits stand for. -/
def decimal (s : List Char) : Nat := Nat.ofDigitChars 10 s 0

/-- A decimal number with an optional sign. -/
inductive SignedDigits : List Char → Int → Prop
  | bare {s : List Char} (digits : IsDigits s) : SignedDigits s (decimal s)
  | plus {s : List Char} (digits : IsDigits s) : SignedDigits ('+' :: s) (decimal s)
  | minus {s : List Char} (digits : IsDigits s) : SignedDigits ('-' :: s) (-(decimal s : Int))

theorem digit?_ten (c : Char) : digit? 10 c = if isDigit c then some (c.toNat - 48) else none := by
  unfold digit? isDigit
  grind

theorem accumulate?_ten {n m : Nat} {s : List Char} :
    accumulate? 10 n s = some m ↔ (∀ c ∈ s, isDigit c = true) ∧ Nat.ofDigitChars 10 s n = m := by
  induction s generalizing n with
  | nil => simp [accumulate?]
  | cons c s ih =>
      rw [accumulate?, digit?_ten, Nat.ofDigitChars_cons, Nat.mul_comm 10 n, List.forall_mem_cons]
      cases digit : isDigit c with
      | false => simp
      | true => simpa using ih

theorem digits?_eq_some_iff {n : Nat} {s : List Char} :
    digits? 10 s = some n ↔ IsDigits s ∧ decimal s = n := by
  cases s with
  | nil =>
      constructor
      · intro h
        cases h
      · intro h
        exact absurd rfl h.1.ne_nil
  | cons c s =>
      rw [digits?, if_neg (by simp), accumulate?_ten]
      exact ⟨fun h => ⟨⟨by simp, h.1⟩, h.2⟩, fun h => ⟨h.1.digits, h.2⟩⟩

theorem isDigits_toDigits (n : Nat) : IsDigits (Nat.toDigits 10 n) :=
  ⟨Nat.toDigits_ne_nil, isDigit_toDigits n⟩

/-- Only zero is written with a zero in front. -/
theorem eq_zero_of_head?_toDigits {n : Nat} (zero : (Nat.toDigits 10 n).head? = some '0') :
    n = 0 := by
  induction n using Nat.strongRecOn with
  | ind n ih =>
    rcases Nat.lt_or_ge n 10 with small | large
    · rw [Nat.toDigits_of_lt_base small, List.head?_cons, Option.some_inj] at zero
      have all : ∀ d < 10, d.digitChar = '0' → d = 0 := by decide
      exact all n small zero
    · rw [toDigits_tenth large, List.head?_append, List.head?_eq_some_head Nat.toDigits_ne_nil,
        Option.some_or, ← List.head?_eq_some_head] at zero
      have tenth := ih (n / 10) (by omega) zero
      omega

theorem toList_toString_nat (n : Nat) : (toString n).toList = Nat.toDigits 10 n := by
  rw [Nat.toString_eq_repr, Nat.toList_repr]

namespace IsDigits

theorem take {ds : List Char} (h : IsDigits ds) {k : Nat} (some_digit : 0 < k) :
    IsDigits (ds.take k) := by
  refine ⟨?_, fun c hc => h.digits c (List.mem_of_mem_take hc)⟩
  rw [Ne, List.take_eq_nil_iff]
  exact fun none => none.elim (Nat.ne_of_gt some_digit) h.ne_nil

theorem drop {ds : List Char} (h : IsDigits ds) {k : Nat} (some_left : k < ds.length) :
    IsDigits (ds.drop k) := by
  refine ⟨?_, fun c hc => h.digits c (List.mem_of_mem_drop hc)⟩
  rw [Ne, List.drop_eq_nil_iff]
  exact Nat.not_le.mpr some_left

theorem append_zeros {ds : List Char} (h : IsDigits ds) (k : Nat) :
    IsDigits (ds ++ List.replicate k '0') := by
  refine ⟨List.append_ne_nil_of_left_ne_nil h.ne_nil _, List.forall_mem_append.mpr ⟨h.digits, ?_⟩⟩
  intro c hc
  rw [List.eq_of_mem_replicate hc]
  rfl

theorem zeros_append {ds : List Char} (h : IsDigits ds) (k : Nat) :
    IsDigits (List.replicate k '0' ++ ds) := by
  refine ⟨List.append_ne_nil_of_right_ne_nil _ h.ne_nil, List.forall_mem_append.mpr ⟨?_, h.digits⟩⟩
  intro c hc
  rw [List.eq_of_mem_replicate hc]
  rfl

end IsDigits

theorem IsDigits.head_ne {c : Char} {s : List Char} (h : IsDigits (c :: s)) : c ≠ '-' ∧ c ≠ '+' := by
  have digit : isDigit c = true := h.digits c List.mem_cons_self
  constructor
  · rintro rfl
    exact absurd digit (by decide)
  · rintro rfl
    exact absurd digit (by decide)

/-- A number is read from digits with an optional sign, if it is in the range. -/
theorem signed?_eq_some_iff {bits : Nat} {s : List Char} {v : Int} :
    signed? bits s = some v ↔
      SignedDigits s v ∧ -(2 ^ (bits - 1) : Nat) ≤ v ∧ v < (2 ^ (bits - 1) : Nat) := by
  constructor
  · intro h
    unfold signed? at h
    split at h
    all_goals
      simp only [Option.map_eq_some_iff, Option.bind_eq_bind, Option.pure_def,
        Option.bind_eq_some_iff, Option.some.injEq, Option.filter_eq_some_iff,
        digits?_eq_some_iff, decide_eq_true_eq] at h
      obtain ⟨_, ⟨n, ⟨⟨digits, rfl⟩, bound⟩, rfl⟩, rfl⟩ := h
    · have positive := Nat.two_pow_pos (bits - 1)
      exact ⟨.minus digits, by omega, by omega⟩
    · exact ⟨.plus digits, by omega, by omega⟩
    · exact ⟨.bare digits, by omega, by omega⟩
  · rintro ⟨signed, low, high⟩
    cases signed with
    | bare digits =>
        have read := digits?_eq_some_iff.mpr ⟨digits, rfl⟩
        have bound : decimal s < 2 ^ (bits - 1) := by omega
        rw [signed?]
        · simp [read, Option.filter_some, bound]
        · rintro rest rfl
          exact digits.head_ne.1 rfl
        · rintro rest rfl
          exact digits.head_ne.2 rfl
    | @plus rest digits =>
        have read := digits?_eq_some_iff.mpr ⟨digits, rfl⟩
        have bound : decimal rest < 2 ^ (bits - 1) := by omega
        simp [signed?, read, Option.filter_some, bound]
    | @minus rest digits =>
        have read := digits?_eq_some_iff.mpr ⟨digits, rfl⟩
        have bound : decimal rest ≤ 2 ^ (bits - 1) := by omega
        simp [signed?, read, Option.filter_some, bound]

end WifiStation.Text
