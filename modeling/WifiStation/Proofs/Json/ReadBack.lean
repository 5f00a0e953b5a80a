import Mathlib.Data.List.DropRight
import WifiStation.Proofs.Json.Grammar

/-!
# WifiStation.Proofs.Json.ReadBack

Every text of the data format is read, as the tree that it is a text of.

`Tree.Reads text t` says that a reader takes exactly `text` and finds `t`, before all that can stand
behind a value; it holds of every text in the grammar (`reads_of_spells`). A string is read unit by
unit and a number part by part, where what stands behind a part cannot belong to it. In an array or
object each value is read up to the sign behind it (`Reads.up_to`), whatever blanks are around it.

The bound on the nesting is the length of the text, and every value that a value contains is shorter
than it, so the bound is never met.
-/

namespace WifiStation

open WifiStation.Text

namespace Tree

/-! ### Strings -/

theorem units?_of_units {us : List StringUnit} {s : List Char} (h : Units us s) (rest : List Char) :
    units? (s ++ '"' :: rest) = some (us, rest) := by
  induction h with
  | nil => rw [List.nil_append, units?]
  | @plain c us s no_quote no_escape no_control _ ih =>
      rw [List.cons_append, units?.eq_5 c _ no_quote (fun _ _ _ _ _ h => absurd h no_escape)
        (fun _ _ h => absurd h no_escape), if_neg (by simp [no_control, no_escape]), ih]
      rfl
  | @short e c us s escape _ ih =>
      have not_code : e ≠ 'u' := by
        rintro rfl
        cases escape
      rw [List.cons_append, List.cons_append,
        units?.eq_4 e _ (fun _ _ _ _ _ h => absurd h not_code), escape, ih]
  | code digits _ ih =>
      simp only [List.cons_append]
      rw [units?.eq_3, digits, ih]

/-- A string is read behind its opening quote up to the closing one. -/
theorem string?_of_text {text : TreeText} {s : List Char} (h : StringText text s)
    (rest : List Char) : ∃ body, s ++ rest = '"' :: body ∧ string? body = some (text, rest) := by
  obtain ⟨us, body, units, rfl, rfl⟩ := h
  refine ⟨body ++ '"' :: rest, by simp, ?_⟩
  rw [string?, units?_of_units units, Option.map_some]

/-! ### What stands behind a value -/

/-- What may stand behind a value: nothing, a blank, or the next sign of an array or object. -/
def EndsValue (rest : List Char) : Prop :=
  ∀ c ∈ rest.head?, isSpace c ∨ c ∈ [',', ']', '\x7d']

/-- Blanks end a value. -/
theorem Spaces.endsValue {gap rest : List Char} (blanks : Spaces gap) (ends : EndsValue rest) :
    EndsValue (gap ++ rest) := by
  cases gap with
  | nil => exact ends
  | cons c gap =>
      rintro _ ⟨⟩
      exact .inl (blanks c List.mem_cons_self)

theorem isSpace_iff {c : Char} : isSpace c = true ↔ c ∈ [' ', '\n', '\t', '\r'] := by
  simp [isSpace, or_assoc]

/-- What stands behind a value belongs to no number. -/
theorem EndsValue.no_number {rest : List Char} (ends : EndsValue rest) :
    ∀ c ∈ rest.head?, isDigit c = false ∧ c ≠ '.' ∧ ¬(c = 'e' ∨ c = 'E') := by
  intro c hc
  have sign : c ∈ [' ', '\n', '\t', '\r', ',', ']', '\x7d'] := by
    rcases ends c hc with blank | sign
    · exact List.mem_append_left _ (isSpace_iff.mp blank)
    · exact List.mem_append_right [' ', '\n', '\t', '\r'] sign
  have all : ∀ c ∈ [' ', '\n', '\t', '\r', ',', ']', '\x7d'],
      isDigit c = false ∧ c ≠ '.' ∧ ¬(c = 'e' ∨ c = 'E') := by simp [isDigit]
  exact all c sign

/-! ### Numbers -/

theorem run?_append {ds tail : List Char} (digits : IsDigits ds)
    (stops : ∀ c ∈ tail.head?, isDigit c = false) : run? (ds ++ tail) = some (ds, tail) := by
  have stop : tail.takeWhile isDigit = [] ∧ tail.dropWhile isDigit = tail := by
    cases tail with
    | nil => exact ⟨rfl, rfl⟩
    | cons c tail => simp [stops c rfl]
  rw [run?, List.takeWhile_append_of_pos digits.digits, List.dropWhile_append_of_pos digits.digits,
    stop.1, stop.2, List.append_nil]
  simp [digits.ne_nil]

theorem fraction?_append {ds tail : List Char} (digits : ∀ c ∈ ds, isDigit c = true)
    (stops : ∀ c ∈ tail.head?, isDigit c = false ∧ c ≠ '.') :
    fraction? (fractionText ds ++ tail) = some (ds, tail) := by
  unfold fractionText
  split
  · rename_i none
    subst none
    cases tail with
    | nil => rfl
    | cons c tail => simp [fraction?, (stops c rfl).2]
  · rename_i some_digit
    exact run?_append ⟨some_digit, digits⟩ fun c hc => (stops c hc).1

theorem exponent?_digits {ds rest : List Char} (digits : IsDigits ds)
    (stops : ∀ c ∈ rest.head?, isDigit c = false) :
    exponent? (ds ++ rest) = some ((false, ds), rest) := by
  have run := run?_append digits stops
  cases ds with
  | nil => exact absurd rfl digits.ne_nil
  | cons d ds =>
      have unsigned := digits.head_ne
      rw [List.cons_append] at run ⊢
      rw [exponent?, run]
      · rfl
      · exact fun _ h => unsigned.1 (List.cons.inj h).1
      · exact fun _ h => unsigned.2 (List.cons.inj h).1

/-- What stands behind the digits of a number belongs to no digits. -/
theorem ExponentText.stops {e : Option (Bool × List Char)} {s rest : List Char}
    (h : ExponentText e s) (ends : EndsValue rest) :
    ∀ c ∈ (s ++ rest).head?, isDigit c = false ∧ c ≠ '.' := by
  have letters : ∀ c, c = 'e' ∨ c = 'E' → isDigit c = false ∧ c ≠ '.' := by
    rintro c (rfl | rfl) <;> decide
  cases h with
  | none => exact fun c hc => ⟨(ends.no_number c hc).1, (ends.no_number c hc).2.1⟩
  | bare letter | plus letter | minus letter =>
      rintro c ⟨⟩
      exact letters _ letter

theorem fractionText_stops (ds : List Char) {tail : List Char}
    (stops : ∀ c ∈ tail.head?, isDigit c = false) :
    ∀ c ∈ (fractionText ds ++ tail).head?, isDigit c = false := by
  unfold fractionText
  split
  · exact stops
  · rintro c ⟨⟩
    rfl

/-- A number is read behind its sign, before all that can stand behind a value. -/
theorem number?_of_text {n : NumberLexeme} {s rest : List Char} (text : UnsignedText n s)
    (ends : EndsValue rest) : number? n.negative (s ++ rest) = some (n, rest) := by
  obtain ⟨exponent, mark, rfl⟩ := text.split
  have digit_free : ∀ c ∈ rest.head?, isDigit c = false := fun c hc => (ends.no_number c hc).1
  have behind := mark.stops ends
  have fraction := fraction?_append text.fraction behind
  have whole := run?_append text.whole
    (fractionText_stops n.fraction fun c hc => (behind c hc).1)
  have lead : ¬(n.whole.head? = some '0' ∧ n.whole.length > 1) :=
    fun h => Nat.not_lt.mpr (text.no_leading_zero h.1) h.2
  obtain ⟨negative, digits, places, power⟩ := n
  simp only [List.append_assoc] at *
  rw [number?, whole]
  simp only [Option.bind_eq_bind, Option.bind_some, if_neg lead, fraction]
  -- the exponent, if there is one
  cases mark with
  | none =>
      cases rest with
      | nil => rfl
      | cons c rest => simp [(ends.no_number c rfl).2.2]
  | bare letter digits => simp [letter, exponent?_digits digits digit_free]
  | plus letter digits => simp [letter, exponent?, run?_append digits digit_free]
  | minus letter digits => simp [letter, exponent?, run?_append digits digit_free]

/-! ### Values -/

/-- A reader takes exactly `text` and finds `t`. -/
def Reads (text : List Char) (t : Tree) : Prop :=
  ∀ fuel rest, text.length ≤ fuel → EndsValue rest →
    readValue fuel (text ++ rest) = (t, some rest)

theorem Reads.of_cons {c : Char} {text : List Char} {t : Tree}
    (h : ∀ fuel rest, text.length ≤ fuel → EndsValue rest →
      readValue (fuel + 1) (c :: (text ++ rest)) = (t, some rest)) : Reads (c :: text) t := by
  intro fuel rest enough ends
  cases fuel with
  | zero => exact absurd enough (Nat.not_succ_le_zero _)
  | succ fuel => exact h fuel rest (Nat.le_of_succ_le_succ enough) ends

/-- A number is read, with its sign or without one. -/
theorem readValue_number {c : Char} (first : c = '-' ∨ isDigit c = true) {s rest : List Char}
    {n : NumberLexeme}
    (read : (if c = '-' then number? true s else number? false (c :: s)) = some (n, rest))
    (fuel : Nat) : readValue (fuel + 1) (c :: s) = (.number n, some rest) := by
  have others : c ∉ [' ', '\n', '\t', '\r', '"', '[', '\x7b', 'n', 't', 'f'] := by
    intro there
    have all : ∀ c ∈ [' ', '\n', '\t', '\r', '"', '[', '\x7b', 'n', 't', 'f'],
        ¬(c = '-' ∨ isDigit c = true) := by simp [isDigit]
    exact all c there first
  simp only [List.mem_cons, List.not_mem_nil, or_false, not_or] at others
  have solid : skipSpace (c :: s) = c :: s := by
    simp [skipSpace, isSpace, others]
  simp only [readValue, solid, others, if_false, read]

theorem reads_number {n : NumberLexeme} {s : List Char} (text : UnsignedText n s) :
    Reads ((if n.negative then ['-'] else []) ++ s) (.number n) := by
  have read := fun rest (ends : EndsValue rest) => number?_of_text text ends
  cases sign : n.negative with
  | true =>
      change Reads ('-' :: s) (.number n)
      refine .of_cons fun fuel rest _ ends => ?_
      refine readValue_number (.inl rfl) ?_ fuel
      rw [if_pos rfl, ← sign, read rest ends]
  | false =>
      obtain ⟨exponent, -, split⟩ := text.split
      obtain ⟨d, ds, whole⟩ := List.exists_cons_of_ne_nil text.whole.ne_nil
      have digit : isDigit d = true := text.whole.digits d (by simp [whole])
      have not_sign : d ≠ '-' := by
        rintro rfl
        exact absurd digit (by decide)
      rw [whole, List.cons_append] at split
      subst split
      refine .of_cons fun fuel rest _ ends => ?_
      refine readValue_number (.inr digit) ?_ fuel
      rw [if_neg not_sign, ← sign, ← List.cons_append, read rest ends]

theorem reads_string {text : TreeText} {s : List Char} (h : StringText text s) :
    Reads s (.string text) := by
  have ⟨_, _, _, _, quote⟩ := h
  subst quote
  refine .of_cons fun fuel rest _ _ => ?_
  obtain ⟨body, split, read⟩ := string?_of_text h rest
  have quote : skipSpace ('"' :: body) = '"' :: body := rfl
  rw [← List.cons_append, split, readValue, quote]
  simp [read]

/-! ### Items and members -/

theorem skipSpace_skipSpace (s : List Char) : skipSpace (skipSpace s) = skipSpace s :=
  List.dropWhile_idempotent isSpace s

theorem readValue_skipSpace (fuel : Nat) (s : List Char) :
    readValue fuel (skipSpace s) = readValue fuel s := by
  cases fuel with
  | zero => rfl
  | succ fuel => rw [readValue, readValue, skipSpace_skipSpace]

theorem readItems_skipSpace (fuel : Nat) (s : List Char) :
    readItems fuel (skipSpace s) = readItems fuel s := by
  cases fuel with
  | zero => rfl
  | succ fuel => rw [readItems, readItems, readValue_skipSpace]

theorem readMembers_skipSpace (fuel : Nat) (s : List Char) :
    readMembers fuel (skipSpace s) = readMembers fuel s := by
  cases fuel with
  | zero => rfl
  | succ fuel => rw [readMembers, readMembers, skipSpace_skipSpace]

/-- A value with blanks around it is read up to the next sign. -/
theorem Reads.up_to {core text : List Char} {t : Tree} (h : Reads core t)
    (around : Around core text) {fuel : Nat} (enough : text.length ≤ fuel) (sign : Char)
    (ends : sign ∈ [',', ']', '\x7d']) (tail : List Char) :
    ∃ left, readValue fuel (text ++ sign :: tail) = (t, some left) ∧
      skipSpace left = sign :: tail := by
  obtain ⟨front, back, before, behind, rfl⟩ := around
  have solid : skipSpace (sign :: tail) = sign :: tail := by
    simp only [List.mem_cons, List.not_mem_nil, or_false] at ends
    rcases ends with rfl | rfl | rfl <;> rfl
  have stop : EndsValue (back ++ sign :: tail) := behind.endsValue <| by
    rintro _ ⟨⟩
    exact .inr ends
  refine ⟨back ++ sign :: tail, ?_, by rw [behind.skipSpace_append, solid]⟩
  simp only [List.length_append] at enough
  rw [List.append_assoc, List.append_assoc, ← readValue_skipSpace, before.skipSpace_append,
    readValue_skipSpace, h fuel _ (by omega) stop]

/-- Items are read, each to its end, if their values are. -/
theorem readItems_of_items {items : List Item} (some_item : items ≠ [])
    (each : ∀ i ∈ items, Reads i.core i.tree) (around : ∀ i ∈ items, Around i.core i.text)
    {fuel : Nat} (enough : ([','].intercalate (items.map Item.text)).length < fuel)
    (rest : List Char) :
    readItems fuel ([','].intercalate (items.map Item.text) ++ ']' :: rest) =
      (items.map Item.tree, some rest) := by
  induction items generalizing fuel with
  | nil => exact absurd rfl some_item
  | cons i items ih =>
      rw [List.forall_mem_cons] at each around
      obtain ⟨fuel, rfl⟩ : ∃ n, fuel = n + 1 := ⟨fuel - 1, by omega⟩
      cases items with
      | nil =>
          simp only [List.map_cons, List.map_nil, List.intercalate_singleton] at enough ⊢
          obtain ⟨left, read, stop⟩ := each.1.up_to around.1 (Nat.le_of_lt_succ enough)
            ']' (by simp) rest
          simp only [readItems, read, Option.map_some, stop]
      | cons i' items =>
          simp only [List.map_cons, List.intercalate_cons_cons, List.append_assoc,
            List.length_append, List.length_singleton] at enough
          have first_fits : i.text.length ≤ fuel := by omega
          have others_fit : ([','].intercalate ((i' :: items).map Item.text)).length < fuel := by
            simp only [List.map_cons]
            omega
          have later := ih (List.cons_ne_nil _ _) each.2 around.2 others_fit
          obtain ⟨left, read, stop⟩ := each.1.up_to around.1 first_fits ',' (by simp)
            ([','].intercalate ((i' :: items).map Item.text) ++ ']' :: rest)
          have split : [','].intercalate ((i :: i' :: items).map Item.text) ++ ']' :: rest =
              i.text ++ ',' :: ([','].intercalate ((i' :: items).map Item.text) ++ ']' :: rest) := by
            simp [List.intercalate_cons_cons]
          simp only [split, readItems, read, Option.map_some, stop, later]
          rfl

/-- A name begins with a quote, behind blanks. -/
theorem Member.Named.begins {m : Member} (named : m.Named) (more : List Char) :
    ∃ body, skipSpace (m.nameText ++ more) = '"' :: body := by
  obtain ⟨core, text, front, back, before, -, split⟩ := named
  obtain ⟨body, opened, -⟩ := string?_of_text text (back ++ more)
  refine ⟨body, ?_⟩
  rw [split, List.append_assoc, List.append_assoc, before.skipSpace_append, opened]
  rfl

/-- A member is read up to the sign behind it, which says how the object goes on. -/
theorem readMembers_member {m : Member} (named : m.Named) (value : Reads m.value.core m.value.tree)
    (around : Around m.value.core m.value.text) {fuel : Nat} (enough : m.text.length ≤ fuel)
    (sign : Char) (ends : sign ∈ [',', ']', '\x7d']) (tail : List Char) :
    readMembers (fuel + 1) (m.text ++ sign :: tail) =
      match sign :: tail with
      | ',' :: rest => (m.entry :: (readMembers fuel rest).1, (readMembers fuel rest).2)
      | '\x7d' :: rest => ([m.entry], some rest)
      | _ => ([m.entry], none) := by
  obtain ⟨core, text, front, back, before, behind, split⟩ := named
  simp only [Member.text, List.length_append, List.length_cons] at enough
  have fits : m.value.text.length ≤ fuel := by omega
  obtain ⟨left, read, stop⟩ := value.up_to around fits sign ends tail
  obtain ⟨body, opened, name⟩ := string?_of_text text (back ++ ':' :: (m.value.text ++ sign :: tail))
  have start : skipSpace (m.text ++ sign :: tail) = '"' :: body := by
    rw [Member.text, split]
    simp only [List.append_assoc, List.cons_append]
    rw [before.skipSpace_append, opened]
    rfl
  have colon : skipSpace (back ++ ':' :: (m.value.text ++ sign :: tail)) =
      ':' :: (m.value.text ++ sign :: tail) := behind.skipSpace_append _
  simp only [readMembers, start, name, colon, read, Option.map_some, stop]
  simp only [List.mem_cons, List.not_mem_nil, or_false] at ends
  rcases ends with rfl | rfl | rfl <;> rfl

/-- Members are read, each to its end, if their values are. -/
theorem readMembers_of_members {members : List Member} (some_member : members ≠ [])
    (named : ∀ m ∈ members, m.Named) (each : ∀ m ∈ members, Reads m.value.core m.value.tree)
    (around : ∀ m ∈ members, Around m.value.core m.value.text) {fuel : Nat}
    (enough : ([','].intercalate (members.map Member.text)).length < fuel) (rest : List Char) :
    readMembers fuel ([','].intercalate (members.map Member.text) ++ '\x7d' :: rest) =
      (members.map Member.entry, some rest) := by
  induction members generalizing fuel with
  | nil => exact absurd rfl some_member
  | cons m members ih =>
      rw [List.forall_mem_cons] at named each around
      obtain ⟨fuel, rfl⟩ : ∃ n, fuel = n + 1 := ⟨fuel - 1, by omega⟩
      cases members with
      | nil =>
          simp only [List.map_cons, List.map_nil, List.intercalate_singleton] at enough ⊢
          rw [readMembers_member named.1 each.1 around.1 (Nat.le_of_lt_succ enough) '\x7d' (by simp)]
          rfl
      | cons m' members =>
          simp only [List.map_cons, List.intercalate_cons_cons, List.append_assoc,
            List.length_append, List.length_singleton] at enough
          have first_fits : m.text.length ≤ fuel := by omega
          have others_fit : ([','].intercalate ((m' :: members).map Member.text)).length < fuel := by
            simp only [List.map_cons]
            omega
          have later := ih (List.cons_ne_nil _ _) named.2 each.2 around.2 others_fit
          have split : [','].intercalate ((m :: m' :: members).map Member.text) ++ '\x7d' :: rest =
              m.text ++
                ',' :: ([','].intercalate ((m' :: members).map Member.text) ++ '\x7d' :: rest) := by
            simp [List.intercalate_cons_cons]
          simp only [split, readMembers_member named.1 each.1 around.1 first_fits ',' (by simp),
            later]
          rfl

/-! ### Arrays and objects -/

/-- A bracket closes an array that has just been opened. -/
theorem readValue_emptyArray {gap : List Char} (blanks : Spaces gap) (fuel : Nat) (rest : List Char) :
    readValue (fuel + 1) ('[' :: (gap ++ ']' :: rest)) = (.array [] true, some rest) := by
  have opened : skipSpace ('[' :: (gap ++ ']' :: rest)) = '[' :: (gap ++ ']' :: rest) := rfl
  have closed : skipSpace (gap ++ ']' :: rest) = ']' :: rest := blanks.skipSpace_append _
  simp only [readValue, opened, closed]
  rfl

/-- A bracket opens an array, of which the items begin behind blanks. -/
theorem readValue_array {s : List Char} (some_item : ∀ rest, skipSpace s ≠ ']' :: rest)
    (fuel : Nat) :
    readValue (fuel + 1) ('[' :: s) =
      (.array (readItems fuel s).1 (readItems fuel s).2.isSome, (readItems fuel s).2) := by
  have opened : skipSpace ('[' :: s) = '[' :: s := rfl
  rw [readValue, opened, ← readItems_skipSpace]
  dsimp only
  rw [if_neg (by decide), if_pos rfl]
  split
  · rename_i rest closed
    exact absurd closed (some_item rest)
  · rfl

/-- A value does not begin with the bracket behind it. -/
theorem Reads.not_closed {core text : List Char} {t : Tree} (h : Reads core t)
    (around : Around core text) (sign : Char) (ends : sign ∈ [',', ']', '\x7d'])
    (tail rest : List Char) :
    skipSpace (text ++ sign :: tail) ≠ ']' :: rest := by
  intro closed
  obtain ⟨left, read, -⟩ := h.up_to around (Nat.le_succ text.length) sign ends tail
  -- nothing that is read begins with a bracket that closes
  rw [← readValue_skipSpace, closed] at read
  cases read

theorem reads_array {items : List Item} (some_item : items ≠ [])
    (each : ∀ i ∈ items, Reads i.core i.tree) (around : ∀ i ∈ items, Around i.core i.text) :
    Reads ('[' :: ([','].intercalate (items.map Item.text) ++ [']']))
      (.array (items.map Item.tree) true) := by
  refine .of_cons fun fuel rest enough _ => ?_
  rw [List.length_append, List.length_singleton] at enough
  have text : [','].intercalate (items.map Item.text) ++ [']'] ++ rest =
      [','].intercalate (items.map Item.text) ++ ']' :: rest := by simp
  have begun : ∀ rest', skipSpace ([','].intercalate (items.map Item.text) ++ ']' :: rest) ≠
      ']' :: rest' := by
    intro rest'
    match items, some_item with
    | [i], _ =>
        simpa using (each i (by simp)).not_closed (around i (by simp)) ']' (by simp) rest rest'
    | i :: i' :: items, _ =>
        simpa [List.intercalate_cons_cons] using (each i (by simp)).not_closed (around i (by simp))
          ',' (by simp) ([','].intercalate ((i' :: items).map Item.text) ++ ']' :: rest) rest'
  rw [text, readValue_array begun, readItems_of_items some_item each around enough]
  rfl

/-- A brace closes an object that has just been opened. -/
theorem readValue_emptyObject {gap : List Char} (blanks : Spaces gap) (fuel : Nat)
    (rest : List Char) :
    readValue (fuel + 1) ('\x7b' :: (gap ++ '\x7d' :: rest)) = (.object [] true, some rest) := by
  have opened : skipSpace ('\x7b' :: (gap ++ '\x7d' :: rest)) =
      '\x7b' :: (gap ++ '\x7d' :: rest) := rfl
  have closed : skipSpace (gap ++ '\x7d' :: rest) = '\x7d' :: rest := blanks.skipSpace_append _
  simp only [readValue, opened, closed]
  rfl

/-- A brace opens an object, of which the first name begins behind blanks. -/
theorem readValue_object {s body : List Char} (some_member : skipSpace s = '"' :: body)
    (fuel : Nat) :
    readValue (fuel + 1) ('\x7b' :: s) =
      (.object (readMembers fuel s).1 (readMembers fuel s).2.isSome, (readMembers fuel s).2) := by
  have opened : skipSpace ('\x7b' :: s) = '\x7b' :: s := rfl
  rw [← readMembers_skipSpace]
  simp only [readValue, opened, some_member]
  rfl

theorem reads_object {members : List Member} (some_member : members ≠ [])
    (named : ∀ m ∈ members, m.Named) (each : ∀ m ∈ members, Reads m.value.core m.value.tree)
    (around : ∀ m ∈ members, Around m.value.core m.value.text) :
    Reads ('\x7b' :: ([','].intercalate (members.map Member.text) ++ ['\x7d']))
      (.object (members.map Member.entry) true) := by
  refine .of_cons fun fuel rest enough _ => ?_
  rw [List.length_append, List.length_singleton] at enough
  have text : [','].intercalate (members.map Member.text) ++ ['\x7d'] ++ rest =
      [','].intercalate (members.map Member.text) ++ '\x7d' :: rest := by simp
  obtain ⟨body, begun⟩ : ∃ body, skipSpace
      ([','].intercalate (members.map Member.text) ++ '\x7d' :: rest) = '"' :: body := by
    match members, some_member with
    | m :: members, _ =>
        obtain ⟨more, split⟩ : ∃ more, [','].intercalate ((m :: members).map Member.text) ++
            '\x7d' :: rest = m.nameText ++ more := by
          cases members <;> simp [Member.text, List.intercalate_cons_cons]
        rw [split]
        exact (named m List.mem_cons_self).begins more
  rw [text, readValue_object begun, readMembers_of_members some_member named each around enough]
  rfl

/-- Every text of a tree is read as that tree. -/
theorem reads_of_spells {t : Tree} {s : List Char} (h : Spells t s) : Reads s t := by
  induction h with
  | null => exact .of_cons fun fuel rest _ _ => rfl
  | trueWord => exact .of_cons fun fuel rest _ _ => rfl
  | falseWord => exact .of_cons fun fuel rest _ _ => rfl
  | number text => exact reads_number text
  | string text => exact reads_string text
  | emptyArray blanks =>
      refine .of_cons fun fuel rest _ _ => ?_
      rw [List.append_assoc, List.singleton_append, readValue_emptyArray blanks]
  | array some_item _ around ih => exact reads_array some_item ih around
  | emptyObject blanks =>
      refine .of_cons fun fuel rest _ _ => ?_
      rw [List.append_assoc, List.singleton_append, readValue_emptyObject blanks]
  | object some_member named _ around ih => exact reads_object some_member named ih around

/-- A whole text is read to its end if it is the text of a value, with blanks around it. -/
theorem read_of_around {core text : List Char} {t : Tree} (h : Reads core t)
    (around : Around core text) : read text = (t, true) := by
  obtain ⟨front, back, before, behind, rfl⟩ := around
  have stop : EndsValue back := by
    rw [← List.append_nil back]
    exact behind.endsValue fun _ hc => (nomatch hc)
  have left : skipSpace back = [] := by
    rw [← List.append_nil back, behind.skipSpace_append]
    rfl
  rw [read, ← readValue_skipSpace, before.skipSpace_append, readValue_skipSpace,
    h _ back (by simp only [List.length_append]; omega) stop]
  simp [left]

theorem read_of_reads {text : List Char} {t : Tree} (h : Reads text t) : read text = (t, true) :=
  read_of_around h (around_self text)

theorem read_of_writes {t : Tree} {s : List Char} (h : Writes t s) : read s = (t, true) := by
  obtain ⟨core, spelled, around⟩ := h
  exact read_of_around (reads_of_spells spelled) around

end Tree

end WifiStation
