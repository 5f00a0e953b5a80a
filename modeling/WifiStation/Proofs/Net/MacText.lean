import Mathlib.Data.List.Forall2
import Mathlib.Tactic.IntervalCases
import WifiStation.Net.Mac
import WifiStation.Proofs.Text.Pieces

/-!
# WifiStation.Proofs.Net.MacText

Which texts are hardware addresses.

A text is read group by group, and a group is read character by character: the last character is a
hexadecimal digit, and the first is one too or a plus sign, which stands for a zero
(`byte?_eq_some_iff`). What is written for an address is written group by group as well, so reading
and writing are compared by their groups (`read?_eq_some_iff`): an address is read from a text
exactly if the text is six groups of this form and the address is written as the text with small
letters, and zeros for its plus signs.

So the texts without a plus sign are read by the rule one expects, two hexadecimal digits a group
(`sixGroups_isHexGroup_iff`); a plus sign in front of a digit is read against it.
-/

namespace WifiStation.Net.Mac

open WifiStation.Text

/-! ### Digits -/

/-- A hexadecimal digit, letters in either case. -/
def isHexDigit (c : Char) : Bool := "0123456789abcdefABCDEF".toList.contains c

theorem digit?_of_isHexDigit {c : Char} (h : isHexDigit c = true) :
    ∃ d < 16, digit? 16 c = some d ∧ c.toLower = d.digitChar := by
  have all : ("0123456789abcdefABCDEF".toList.all fun c =>
      (digit? 16 c).any fun d => d < 16 && c.toLower == d.digitChar) = true := by decide
  have here := List.all_eq_true.mp all c (List.contains_iff_mem.mp h)
  cases value : digit? 16 c with
  | none => simp [value] at here
  | some d =>
      have both : d < 16 ∧ c.toLower = d.digitChar := by simpa [value] using here
      exact ⟨d, both.1, rfl, both.2⟩

theorem isHexDigit_of_digit? {c : Char} {d : Nat} (h : digit? 16 c = some d) :
    isHexDigit c = true := by
  obtain ⟨value, below⟩ := Option.filter_eq_some_iff.mp h
  have small : d < 16 := of_decide_eq_true below
  have range : 48 ≤ c.toNat ∧ c.toNat ≤ 57 ∨ 97 ≤ c.toNat ∧ c.toNat ≤ 102 ∨
      65 ≤ c.toNat ∧ c.toNat ≤ 70 := by
    grind
  have code : c = Char.ofNat c.toNat := (Char.ofNat_toNat c).symm
  rw [code]
  generalize c.toNat = n at range
  rcases range with ⟨low, high⟩ | ⟨low, high⟩ | ⟨low, high⟩ <;> interval_cases n <;> decide

theorem digitChar_injective : ∀ a < 16, ∀ b < 16, a.digitChar = b.digitChar → a = b := by decide

/-- A digit is read from a character exactly if this is the digit, with a letter in either case. -/
theorem digit?_sixteen {c : Char} {d : Nat} :
    digit? 16 c = some d ↔ isHexDigit c = true ∧ d < 16 ∧ c.toLower = d.digitChar := by
  constructor
  · intro h
    obtain ⟨e, small, value, lower⟩ := digit?_of_isHexDigit (isHexDigit_of_digit? h)
    rw [h, Option.some.injEq] at value
    subst value
    exact ⟨isHexDigit_of_digit? h, small, lower⟩
  · rintro ⟨digit, small, lower⟩
    obtain ⟨e, small', value, lower'⟩ := digit?_of_isHexDigit digit
    rw [value, digitChar_injective d small e small' (lower.symm.trans lower')]

/-! ### Groups -/

/-- Two hexadecimal digits. -/
def IsHexGroup (g : List Char) : Prop :=
  ∃ hi lo, g = [hi, lo] ∧ isHexDigit hi = true ∧ isHexDigit lo = true

/-- What is read as a group: the first of two hexadecimal digits may be a plus sign instead. -/
def IsReadGroup (g : List Char) : Prop :=
  ∃ hi lo, g = [hi, lo] ∧ (hi = '+' ∨ isHexDigit hi = true) ∧ isHexDigit lo = true

/-- The character that is written for one that was read. -/
def shown (c : Char) : Char := if c = '+' then '0' else c.toLower

theorem shown_of_isHexDigit {c : Char} (h : isHexDigit c = true) : shown c = c.toLower := by
  have plus : c ≠ '+' := by
    rintro rfl
    exact absurd h (by decide)
  rw [shown, if_neg plus]

theorem shown_digitChar : ∀ d < 16, shown d.digitChar = d.digitChar := by decide

theorem isHexDigit_digitChar : ∀ d < 16, isHexDigit d.digitChar = true := by decide

/-- A plus sign in front of a digit adds nothing to its value. -/
theorem unsigned?_pair (hi lo : Char) :
    unsigned? 16 256 [hi, lo] =
      (if hi = '+' then some 0 else digit? 16 hi).bind fun h =>
        (digit? 16 lo).map fun l => h * 16 + l := by
  by_cases plus : hi = '+'
  · subst plus
    cases low : digit? 16 lo with
    | none => simp [unsigned?, digits?, accumulate?, low]
    | some l =>
        have small := (digit?_sixteen.mp low).2.1
        simp [unsigned?, digits?, accumulate?, low, Option.filter]
        omega
  · have body : unsigned? 16 256 [hi, lo] = (digits? 16 [hi, lo]).filter (· < 256) := by
      rw [unsigned?]
      intro rest same
      cases same
      exact plus rfl
    rw [body, if_neg plus]
    cases high : digit? 16 hi with
    | none => simp [digits?, accumulate?, high]
    | some h =>
        cases low : digit? 16 lo with
        | none => simp [digits?, accumulate?, high, low]
        | some l =>
            have small := (digit?_sixteen.mp high).2.1
            have small' := (digit?_sixteen.mp low).2.1
            simp [digits?, accumulate?, high, low, Option.filter]
            omega

/-- The first character of a group is a plus sign, or a digit like the second. -/
theorem lead_eq_some_iff {c : Char} {d : Nat} :
    (if c = '+' then some 0 else digit? 16 c) = some d ↔
      (c = '+' ∨ isHexDigit c = true) ∧ d < 16 ∧ shown c = d.digitChar := by
  by_cases plus : c = '+'
  · subst plus
    have zero : shown '+' = Nat.digitChar 0 := by decide
    rw [if_pos rfl, zero]
    constructor
    · intro h
      cases h
      exact ⟨Or.inl rfl, by decide, rfl⟩
    · intro h
      exact congrArg some (digitChar_injective 0 (by decide) d h.2.1 h.2.2)
  · rw [if_neg plus, shown, if_neg plus, digit?_sixteen]
    simp [plus]

/-- A byte is read from a group of the right form that is written, in small letters, as the byte. -/
theorem byte?_eq_some_iff {g : List Char} {b : UInt8} :
    byte? g = some b ↔ IsReadGroup g ∧ g.map shown = hexByte b := by
  constructor
  · intro h
    match g with
    | [] | [_] | _ :: _ :: _ :: _ => cases h
    | [hi, lo] =>
        rw [byte?, unsigned?_pair] at h
        simp only [Option.map_eq_some_iff, Option.bind_eq_some_iff] at h
        obtain ⟨n, ⟨h, high, l, low, rfl⟩, rfl⟩ := h
        obtain ⟨first, small, shownHigh⟩ := lead_eq_some_iff.mp high
        obtain ⟨second, small', lower⟩ := digit?_sixteen.mp low
        have value : (UInt8.ofNat (h * 16 + l)).toNat = h * 16 + l := by
          rw [UInt8.toNat_ofNat']
          omega
        refine ⟨⟨hi, lo, rfl, first, second⟩, ?_⟩
        rw [hexByte, value, show (h * 16 + l) / 16 = h by omega, show (h * 16 + l) % 16 = l by omega,
          ← shownHigh, ← lower, ← shown_of_isHexDigit second]
        rfl
  · rintro ⟨⟨hi, lo, rfl, first, second⟩, written⟩
    have bound := b.toNat_lt
    simp only [hexByte, List.map_cons, List.map_nil, List.cons.injEq, and_true] at written
    have high := lead_eq_some_iff.mpr ⟨first, by omega, written.1⟩
    have low := digit?_sixteen.mpr
      ⟨second, by omega, (shown_of_isHexDigit second).symm.trans written.2⟩
    rw [byte?, unsigned?_pair, high, Option.bind_some, low, Option.map_some, Option.map_some,
      Nat.div_add_mod', UInt8.ofNat_toNat]

theorem isReadGroup_hexByte (b : UInt8) : IsReadGroup (hexByte b) := by
  have bound := b.toNat_lt
  exact ⟨_, _, rfl, Or.inr (isHexDigit_digitChar _ (by omega)), isHexDigit_digitChar _ (by omega)⟩

theorem isHexDigit_shown {c : Char} (h : c = '+' ∨ isHexDigit c = true) :
    isHexDigit (shown c) = true := by
  rcases h with rfl | digit
  · decide
  · obtain ⟨d, small, -, lower⟩ := digit?_of_isHexDigit digit
    rw [shown_of_isHexDigit digit, lower]
    exact isHexDigit_digitChar d small

theorem isReadGroup_map_shown {g : List Char} (h : IsReadGroup g) : IsReadGroup (g.map shown) := by
  obtain ⟨hi, lo, rfl, first, second⟩ := h
  exact ⟨_, _, rfl, Or.inr (isHexDigit_shown first), isHexDigit_shown (Or.inr second)⟩

theorem map_shown_hexByte (b : UInt8) : (hexByte b).map shown = hexByte b := by
  have bound := b.toNat_lt
  simp only [hexByte, List.map_cons, List.map_nil, shown_digitChar (b.toNat / 16) (by omega),
    shown_digitChar (b.toNat % 16) (by omega)]

theorem colon_not_mem {g : List Char} (h : IsReadGroup g) : ':' ∉ g := by
  obtain ⟨hi, lo, rfl, first, second⟩ := h
  intro colon
  simp only [List.mem_cons, List.not_mem_nil, or_false] at colon
  rcases colon with rfl | rfl
  · rcases first with plus | digit
    · exact absurd plus (by decide)
    · exact absurd digit (by decide)
  · exact absurd second (by decide)

/-- A group without a plus sign is two digits. -/
theorem isHexGroup_iff {g : List Char} : IsHexGroup g ↔ IsReadGroup g ∧ '+' ∉ g := by
  constructor
  · rintro ⟨hi, lo, rfl, first, second⟩
    refine ⟨⟨hi, lo, rfl, Or.inr first, second⟩, ?_⟩
    intro plus
    simp only [List.mem_cons, List.not_mem_nil, or_false] at plus
    rcases plus with rfl | rfl
    · exact absurd first (by decide)
    · exact absurd second (by decide)
  · rintro ⟨⟨hi, lo, rfl, first, second⟩, plain⟩
    refine ⟨hi, lo, rfl, ?_, second⟩
    rcases first with rfl | digit
    · simp at plain
    · exact digit

/-! ### Whole addresses -/

/-- Six texts of a kind with colons between them. -/
def SixGroups (kind : List Char → Prop) (s : List Char) : Prop :=
  ∃ groups : List (List Char),
    groups.length = 6 ∧ (∀ g ∈ groups, kind g) ∧ s = [':'].intercalate groups

theorem joined_eq_intercalate (sep : Char) (groups : List (List Char)) :
    joined sep groups = [sep].intercalate groups := by
  fun_induction joined sep groups with
  | case1 => rfl
  | case2 p => rw [List.intercalate_singleton]
  | case3 p ps more ih =>
      cases ps with
      | nil => exact absurd rfl more
      | cons q qs => simp [List.intercalate_cons_cons, ih]

theorem map_shown_intercalate (groups : List (List Char)) :
    ([':'].intercalate groups).map shown = [':'].intercalate (groups.map (List.map shown)) := by
  have colon : shown ':' = ':' := by decide
  induction groups with
  | nil => rfl
  | cons g groups ih =>
      cases groups with
      | nil => simp [List.intercalate_singleton]
      | cons g' groups =>
          rw [List.map_cons] at ih
          simp [List.intercalate_cons_cons, ih, colon]

theorem length_toBytes (m : Mac) : m.toBytes.length = 6 := rfl

theorem ofBytes?_eq_some_iff {bytes : List UInt8} {m : Mac} :
    ofBytes? bytes = some m ↔ bytes = m.toBytes := by
  constructor
  · intro h
    match bytes with
    | [b0, b1, b2, b3, b4, b5] => cases h; rfl
    | [] | [_] | [_, _] | [_, _, _] | [_, _, _, _] | [_, _, _, _, _] => cases h
    | _ :: _ :: _ :: _ :: _ :: _ :: _ :: _ => cases h
  · rintro rfl
    exact ofBytes?_toBytes m

/-- An address is read from the pieces that its groups stand for. -/
theorem read?_eq_some_iff {s : List Char} {m : Mac} :
    read? s = some m ↔ (∀ g ∈ pieces ':' s, IsReadGroup g) ∧
      (pieces ':' s).map (List.map shown) = m.toBytes.map hexByte := by
  simp only [read?, Option.bind_eq_some_iff, ofBytes?_eq_some_iff, exists_eq_right,
    mapM_eq_some_iff, byte?_eq_some_iff, List.forall₂_and_left]
  rw [← List.forall₂_map_right_iff, ← List.forall₂_map_left_iff, List.forall₂_eq_eq_eq]

theorem toChars_eq (m : Mac) : m.toChars = [':'].intercalate (m.toBytes.map hexByte) :=
  joined_eq_intercalate ':' _

/-- The groups of a text are its pieces. -/
theorem pieces_of_groups {groups : List (List Char)} (six : groups.length = 6)
    (read : ∀ g ∈ groups, IsReadGroup g) : pieces ':' ([':'].intercalate groups) = groups := by
  rw [pieces_eq_splitOn, List.splitOn_intercalate]
  · exact fun g hg => colon_not_mem (read g hg)
  · rintro rfl
    cases six

theorem pieces_toChars (m : Mac) : pieces ':' m.toChars = m.toBytes.map hexByte := by
  rw [toChars_eq]
  refine pieces_of_groups (by rw [List.length_map, length_toBytes]) fun g hg => ?_
  obtain ⟨b, -, rfl⟩ := List.mem_map.mp hg
  exact isReadGroup_hexByte b

/-- An address is read from a text if and only if the text is six groups, and the address is written
as the text with small letters, and zeros for plus signs. -/
theorem read?_eq_some_iff_groups {s : List Char} {m : Mac} :
    read? s = some m ↔ SixGroups IsReadGroup s ∧ m.toChars = s.map shown := by
  rw [read?_eq_some_iff]
  constructor
  · rintro ⟨read, written⟩
    have text : s = [':'].intercalate (pieces ':' s) := by
      rw [pieces_eq_splitOn, List.intercalate_splitOn]
    refine ⟨⟨pieces ':' s, ?_, read, text⟩, ?_⟩
    · simpa [length_toBytes] using congrArg List.length written
    · rw [toChars_eq, ← written, ← map_shown_intercalate, ← text]
  · rintro ⟨⟨groups, six, read, rfl⟩, written⟩
    have groups_eq := pieces_of_groups six read
    rw [groups_eq]
    refine ⟨read, ?_⟩
    have shown_read : ∀ g ∈ groups.map (List.map shown), IsReadGroup g := by
      intro g hg
      obtain ⟨g', mem, rfl⟩ := List.mem_map.mp hg
      exact isReadGroup_map_shown (read g' mem)
    rw [← pieces_toChars, written, map_shown_intercalate, pieces_of_groups _ shown_read]
    rw [List.length_map, six]

/-- What is written for an address is read as the address. -/
theorem read?_toChars (m : Mac) : read? m.toChars = some m := by
  rw [read?_eq_some_iff, pieces_toChars]
  constructor
  · intro g hg
    obtain ⟨b, -, rfl⟩ := List.mem_map.mp hg
    exact isReadGroup_hexByte b
  · simp [map_shown_hexByte]

theorem plus_mem_intercalate (groups : List (List Char)) :
    '+' ∈ [':'].intercalate groups ↔ ∃ g ∈ groups, '+' ∈ g := by
  induction groups with
  | nil => simp [List.intercalate_nil]
  | cons g groups ih =>
      cases groups with
      | nil => simp [List.intercalate_singleton]
      | cons g' groups => simp [List.intercalate_cons_cons, ih]

/-- Six groups of two digits are six groups as they are read, without a plus sign. -/
theorem sixGroups_isHexGroup_iff {s : List Char} :
    SixGroups IsHexGroup s ↔ SixGroups IsReadGroup s ∧ '+' ∉ s := by
  constructor
  · rintro ⟨groups, six, digits, rfl⟩
    refine ⟨⟨groups, six, fun g hg => (isHexGroup_iff.mp (digits g hg)).1, rfl⟩, ?_⟩
    rw [plus_mem_intercalate]
    rintro ⟨g, hg, plus⟩
    exact (isHexGroup_iff.mp (digits g hg)).2 plus
  · rintro ⟨⟨groups, six, read, rfl⟩, plain⟩
    refine ⟨groups, six, fun g hg => isHexGroup_iff.mpr ⟨read g hg, fun plus => ?_⟩, rfl⟩
    exact plain ((plus_mem_intercalate groups).mpr ⟨g, hg, plus⟩)

theorem map_shown_of_plain {s : List Char} (plain : '+' ∉ s) : s.map shown = s.map Char.toLower := by
  refine List.map_congr_left fun c hc => ?_
  have other : c ≠ '+' := fun plus => plain (plus ▸ hc)
  rw [shown, if_neg other]

theorem exists_byte? {g : List Char} (h : IsReadGroup g) : ∃ b, byte? g = some b := by
  obtain ⟨hi, lo, rfl, first, second⟩ := h
  obtain ⟨l, -, low, -⟩ := digit?_of_isHexDigit second
  obtain ⟨d, high⟩ : ∃ d, (if hi = '+' then some 0 else digit? 16 hi) = some d := by
    by_cases plus : hi = '+'
    · exact ⟨0, if_pos plus⟩
    · obtain ⟨d, -, value, -⟩ := digit?_of_isHexDigit (first.resolve_left plus)
      exact ⟨d, by rw [if_neg plus, value]⟩
  rw [byte?, unsigned?_pair, high, Option.bind_some, low]
  exact ⟨_, rfl⟩

/-- Six groups are an address. -/
theorem exists_read? {s : List Char} (h : SixGroups IsReadGroup s) : ∃ m, read? s = some m := by
  obtain ⟨groups, six, read, rfl⟩ := h
  obtain ⟨bytes, each⟩ := exists_mapM fun g hg => exists_byte? (read g hg)
  have length : bytes.length = 6 := by rw [← (mapM_eq_some_iff.mp each).length_eq, six]
  obtain ⟨m, whole⟩ : ∃ m, ofBytes? bytes = some m := by
    match bytes with
    | [b0, b1, b2, b3, b4, b5] => exact ⟨_, rfl⟩
  exact ⟨m, by rw [read?, pieces_of_groups six read, each, Option.bind_some, whole]⟩

/-- A hardware address is read from six groups of two hexadecimal digits between colons, in either
case, and is written as them in small letters; what is written is read back. The only other texts
that are read have a plus sign in place of the first digit of a group, which is taken for a zero. -/
theorem read?_six_groups (s : List Char) (m : Mac) :
    (read? s = some m ↔ SixGroups IsReadGroup s ∧ m.render.toList = s.map shown) ∧
      (SixGroups IsHexGroup s ↔
        '+' ∉ s ∧ ∃ m, read? s = some m ∧ m.render.toList = s.map Char.toLower) ∧
      read? m.render.toList = some m := by
  simp only [render, String.toList_ofList]
  refine ⟨read?_eq_some_iff_groups, ?_, read?_toChars m⟩
  rw [sixGroups_isHexGroup_iff]
  constructor
  · rintro ⟨groups, plain⟩
    obtain ⟨m, found⟩ := exists_read? groups
    refine ⟨plain, m, found, ?_⟩
    rw [(read?_eq_some_iff_groups.mp found).2, map_shown_of_plain plain]
  · rintro ⟨plain, m, found, -⟩
    exact ⟨(read?_eq_some_iff_groups.mp found).1, plain⟩

/-- A plus sign in front of a digit is read, though it is no hexadecimal digit. -/
theorem read?_plus :
    read? "+f:00:00:00:00:00".toList = some ⟨15, 0, 0, 0, 0, 0⟩ ∧
      ¬ SixGroups IsHexGroup "+f:00:00:00:00:00".toList := by
  refine ⟨by decide, fun digits => ?_⟩
  have plain := (sixGroups_isHexGroup_iff.mp digits).2
  exact plain (by decide)

end WifiStation.Net.Mac
