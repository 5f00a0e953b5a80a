import WifiStation.Json.Value
import WifiStation.Proofs.Json.Grammar

/-!
# WifiStation.Proofs.Json.Layout

What is written for a value is a text of the data format.

Every character of a string is written in a form that stands for it (`units_escapeChar`), in
particular a backslash, and a control as four hexadecimal digits. Numbers are written without leading
zeros, floating point numbers in each of their forms. The lines and the indentation of an array or
object are blanks around its items or members, so it is spelled if each of them is (`spells_array`,
`spells_object`), and by induction on the value some tree is spelled by all that is written
(`exists_spells`).
-/

namespace WifiStation

open WifiStation.Text

namespace Tree

/-! ### Strings -/

/-- The unit that a character is written as: its code for a control that has no short escape, or
else itself. -/
def unitOf (c : Char) : StringUnit :=
  if c.toNat < 0x20 ∧ c.toNat ∉ [8, 9, 10, 12, 13] then .unit c.toNat else .char c

/-- A control with a short escape. -/
theorem units_control {c e : Char} {n : Nat} (code : c.toNat = n)
    (escape : simpleEscape? e = some (Char.ofNat n)) (short : n ∈ [8, 9, 10, 12, 13])
    {us : List StringUnit} {s : List Char} (rest : Units us s) :
    Units (unitOf c :: us) ('\\' :: e :: s) := by
  have self : unitOf c = .char (Char.ofNat n) := by
    rw [unitOf, code, if_neg (fun h => h.2 short), ← code, Char.ofNat_toNat]
  rw [self]
  exact .short escape rest

/-- What is written for a character stands for its unit. -/
theorem units_escapeChar (c : Char) {us : List StringUnit} {s : List Char} (rest : Units us s) :
    Units (unitOf c :: us) (Json.escapeChar c ++ s) := by
  unfold Json.escapeChar
  split
  · subst c
    exact .short rfl rest
  split
  · subst c
    exact .short rfl rest
  -- the short escapes, by the code of the character
  split
  · exact units_control ‹_› rfl (by decide) rest
  split
  · exact units_control ‹_› rfl (by decide) rest
  split
  · exact units_control ‹_› rfl (by decide) rest
  split
  · exact units_control ‹_› rfl (by decide) rest
  split
  · exact units_control ‹_› rfl (by decide) rest
  split
  · rename_i small
    have digits : ∀ n < 0x20, accumulate? 16 0 (Json.hex4 n) = some n := by decide
    rw [unitOf, if_pos ⟨small, by simp_all⟩]
    exact .code (digits _ small) rest
  · rename_i no_quote no_escape _ _ _ _ _ no_control
    rw [unitOf, if_neg (fun h => no_control h.1)]
    exact .plain no_quote no_escape no_control rest

theorem units_escaped (s : List Char) : Units (s.map unitOf) (s.flatMap Json.escapeChar) := by
  induction s with
  | nil => exact .nil
  | cons c rest ih =>
      rw [List.map_cons, List.flatMap_cons]
      exact units_escapeChar c ih

/-- The text of a control's code and more is that control and the text of the rest. -/
theorem textOf_code {n : Nat} (small : n < 0x20) (us : List StringUnit) :
    textOf (.unit n :: us) = (textOf us).map (Char.ofNat n :: ·) := by
  cases us with
  | nil => rw [textOf.eq_4 n [] (fun _ _ h => (nomatch h)), if_neg (by omega)]
  | cons u us =>
      cases u with
      | char c => rw [textOf.eq_4 n (.char c :: us) (fun _ _ h => (nomatch h)), if_neg (by omega)]
      | unit lo => rw [textOf, if_neg (by omega), if_neg (by omega)]

theorem textOf_unitOf (s : List Char) : textOf (s.map unitOf) = some s := by
  induction s with
  | nil => rfl
  | cons c rest ih =>
      rw [List.map_cons, unitOf]
      split
      · rename_i control
        rw [textOf_code control.1, ih, Option.map_some, Char.ofNat_toNat]
      · rw [textOf, ih, Option.map_some]

theorem stringText_quoted (s : String) : StringText (some s) (Json.quoted s) := by
  refine ⟨_, _, units_escaped s.toList, ?_, rfl⟩
  rw [textOf_unitOf, Option.map_some, String.ofList_toList]

/-! ### Numbers -/

theorem toList_toString_negSucc (n : Nat) :
    (toString (Int.negSucc n)).toList = '-' :: Nat.toDigits 10 (n + 1) := by
  have sign : "-".toList = ['-'] := rfl
  rw [show toString (Int.negSucc n) = "-" ++ toString (n + 1) from rfl, String.toList_append, sign,
    toList_toString_nat]
  rfl

theorem no_leading_zero_toDigits (n : Nat) :
    (Nat.toDigits 10 n).head? = some '0' → (Nat.toDigits 10 n).length ≤ 1 := by
  intro zero
  rw [eq_zero_of_head?_toDigits zero]
  decide

/-- A whole number behind its sign. -/
theorem unsignedText_toDigits (negative : Bool) (n : Nat) :
    UnsignedText ⟨negative, Nat.toDigits 10 n, [], none⟩ (Nat.toDigits 10 n) where
  whole := isDigits_toDigits n
  no_leading_zero := no_leading_zero_toDigits n
  fraction := by simp
  split := ⟨[], .none, by simp [fractionText]⟩

theorem spells_int (n : Int) : ∃ l, Spells (.number l) (JsonNumber.int n).render := by
  cases n with
  | ofNat n =>
      have text : (JsonNumber.int (.ofNat n)).render = [] ++ Nat.toDigits 10 n :=
        toList_toString_nat n
      refine ⟨⟨false, Nat.toDigits 10 n, [], none⟩, ?_⟩
      rw [text]
      exact .number (unsignedText_toDigits false n)
  | negSucc n =>
      have text : (JsonNumber.int (.negSucc n)).render = ['-'] ++ Nat.toDigits 10 (n + 1) :=
        toList_toString_negSucc n
      refine ⟨⟨true, Nat.toDigits 10 (n + 1), [], none⟩, ?_⟩
      rw [text]
      exact .number (unsignedText_toDigits true (n + 1))

/-- A number with a point. -/
theorem unsignedText_point (negative : Bool) {whole fraction : List Char} (digits : IsDigits whole)
    (no_leading_zero : whole.head? = some '0' → whole.length ≤ 1) (places : IsDigits fraction) :
    UnsignedText ⟨negative, whole, fraction, none⟩ (whole ++ '.' :: fraction) where
  whole := digits
  no_leading_zero := no_leading_zero
  fraction := places.digits
  split := ⟨[], .none, by simp [fractionText, places.ne_nil]⟩

theorem exists_exponentText (k : Int) : ∃ e, ExponentText e ('e' :: (toString k).toList) := by
  cases k with
  | ofNat k =>
      have text : (toString (Int.ofNat k)).toList = Nat.toDigits 10 k := toList_toString_nat k
      refine ⟨some (false, Nat.toDigits 10 k), ?_⟩
      rw [text]
      exact .bare (.inl rfl) (isDigits_toDigits k)
  | negSucc k =>
      refine ⟨some (true, Nat.toDigits 10 (k + 1)), ?_⟩
      rw [toList_toString_negSucc]
      exact .minus (.inl rfl) (isDigits_toDigits (k + 1))

/-- A number with one digit before the point, and an exponent. -/
theorem exists_unsignedText_exponent (negative : Bool) {d : Char} {ds : List Char}
    (digits : ∀ c ∈ d :: ds, isDigit c = true) (k : Int) :
    ∃ e, UnsignedText ⟨negative, [d], ds, e⟩
      (d :: (fractionText ds ++ 'e' :: (toString k).toList)) := by
  obtain ⟨e, text⟩ := exists_exponentText k
  rw [List.forall_mem_cons] at digits
  exact ⟨e, ⟨by simp, by simpa using digits.1⟩, fun _ => Nat.le_refl 1, digits.2, _, text, rfl⟩

/-- A floating point number is spelled in each of its forms. -/
theorem spells_real (x : Real64) : ∃ l, Spells (.number l) x.render := by
  suffices ∃ l body, l.negative = x.negative ∧ UnsignedText l body ∧
      x.render = (if x.negative then ['-'] else []) ++ body by
    obtain ⟨l, body, sign, text, shape⟩ := this
    rw [shape, ← sign]
    exact ⟨l, .number text⟩
  generalize sn : x.magnitude.shortest = n
  have digits := isDigits_toDigits n.digits
  have lead := no_leading_zero_toDigits n.digits
  have one_zero : IsDigits ['0'] := ⟨by simp, by simp [isDigit]⟩
  unfold Real64.render
  generalize (if x.negative then ['-'] else []) = sign
  simp only [sn]
  split
  · -- zero
    exact ⟨_, _, rfl, unsignedText_point x.negative one_zero (by decide) one_zero, rfl⟩
  rename_i positive
  have no_zero : (Nat.toDigits 10 n.digits).head? ≠ some '0' := fun zero =>
    positive (eq_zero_of_head?_toDigits zero)
  split
  · -- all digits before the point, with zeros behind them
    refine ⟨_, _, rfl, unsignedText_point x.negative
      (digits.append_zeros n.exponent.toNat) (fun zero => ?_) one_zero, by simp⟩
    rw [List.head?_append, List.head?_eq_some_head digits.ne_nil, Option.some_or,
      ← List.head?_eq_some_head] at zero
    exact absurd zero no_zero
  split
  · -- the point stands between the digits
    rename_i not_whole inside
    simp only [Bool.and_eq_true, decide_eq_true_eq, not_and] at not_whole inside
    refine ⟨_, _, rfl, unsignedText_point x.negative
      (digits.take (by omega)) (fun zero => ?_) (digits.drop (by omega)), rfl⟩
    rw [List.head?_take, if_neg (by omega)] at zero
    exact absurd zero no_zero
  split
  · -- zeros between the point and the digits
    exact ⟨_, _, rfl, unsignedText_point x.negative one_zero (by decide) (digits.zeros_append _),
      rfl⟩
  · -- an exponent
    have all := digits.digits
    split
    · rename_i d one
      rw [one] at all
      obtain ⟨e, text⟩ := exists_unsignedText_exponent x.negative all
        ((Nat.toDigits 10 n.digits).length + n.exponent - 1)
      exact ⟨_, _, rfl, text, rfl⟩
    · rename_i d ds more some_digits
      rw [some_digits] at all
      obtain ⟨e, text⟩ := exists_unsignedText_exponent x.negative all
        ((Nat.toDigits 10 n.digits).length + n.exponent - 1)
      have several : ds ≠ [] := by
        rintro rfl
        exact more rfl
      exact ⟨_, _, rfl, text, by simp [fractionText, several]⟩
    · rename_i none
      exact absurd none digits.ne_nil

/-! ### Arrays and objects -/

theorem spaces_newline (level : Nat) : Spaces (Json.newline level) := by
  intro c hc
  rcases List.mem_cons.mp hc with rfl | hc
  · rfl
  · rw [List.eq_of_mem_replicate hc]
    rfl

theorem prettyItems_eq (level : Nat) (vs : List Json) :
    Json.prettyItems level vs =
      [','].intercalate (vs.map fun v => Json.newline level ++ v.prettyChars level) := by
  induction vs with
  | nil => rfl
  | cons v vs ih =>
      cases vs with
      | nil => simp [Json.prettyItems]
      | cons v' vs => simp [Json.prettyItems, List.intercalate_cons_cons, ih]

theorem prettyMembers_eq (level : Nat) (ms : List (String × Json)) :
    Json.prettyMembers level ms =
      [','].intercalate (ms.map fun m =>
        Json.newline level ++ (Json.quoted m.1 ++ ':' :: ' ' :: m.2.prettyChars level)) := by
  induction ms with
  | nil => rfl
  | cons m ms ih =>
      cases ms with
      | nil => simp [Json.prettyMembers]
      | cons m' ms => simp [Json.prettyMembers, List.intercalate_cons_cons, ih]

section Lines

variable {α β γ : Type} (lay : List Char → α → β)

/-- Lays out the parts of a list, the last with something behind it. -/
def layAll (back : List Char) : List α → List β
  | [] => []
  | [a] => [lay back a]
  | a :: a' :: rest => lay [] a :: layAll back (a' :: rest)

variable {lay} {back : List Char}

theorem forall_mem_layAll {P : β → Prop} {parts : List α}
    (each : ∀ a ∈ parts, P (lay [] a) ∧ P (lay back a)) : ∀ b ∈ layAll lay back parts, P b := by
  fun_induction layAll lay back parts with
  | case1 => simp
  | case2 a => simpa using (each a List.mem_cons_self).2
  | case3 a a' rest ih =>
      rw [List.forall_mem_cons] at each ⊢
      exact ⟨each.1.1, ih each.2⟩

theorem map_layAll {f : β → γ} {g : α → γ} (same : ∀ back a, f (lay back a) = g a)
    (parts : List α) : (layAll lay back parts).map f = parts.map g := by
  fun_induction layAll lay back parts with
  | case1 => rfl
  | case2 a => rw [List.map_singleton, List.map_singleton, same]
  | case3 a a' rest ih => rw [List.map_cons, List.map_cons, same, ih]

theorem intercalate_layAll {text : β → List Char} {start : α → List Char}
    (split : ∀ back a, text (lay back a) = start a ++ back) {parts : List α}
    (some_part : parts ≠ []) :
    [','].intercalate ((layAll lay back parts).map text) =
      [','].intercalate (parts.map start) ++ back := by
  fun_induction layAll lay back parts with
  | case1 => exact absurd rfl some_part
  | case2 a => simp [split]
  | case3 a a' rest ih =>
      have later := ih (List.cons_ne_nil _ _)
      have laid : (layAll lay back (a' :: rest)).map text ≠ [] := by
        cases rest <;> simp [layAll]
      obtain ⟨t, ts, shape⟩ := List.exists_cons_of_ne_nil laid
      rw [shape] at later
      rw [List.map_cons, shape, List.intercalate_cons_cons, later, split]
      simp [List.intercalate_cons_cons]

theorem layAll_ne_nil {parts : List α} (some_part : parts ≠ []) : layAll lay back parts ≠ [] := by
  fun_cases layAll lay back parts with
  | case1 => exact absurd rfl some_part
  | case2 a => simp
  | case3 a a' rest => simp

end Lines

/-- A value on a line of its own. -/
def lineItem (level : Nat) (back : List Char) (p : Json × Tree) : Item :=
  ⟨p.2, p.1.prettyChars level, Json.newline level ++ (p.1.prettyChars level ++ back)⟩

/-- An array is spelled if each of its items is. -/
theorem spells_array (level : Nat) (items : List (Json × Tree)) (some_item : items ≠ [])
    (each : ∀ p ∈ items, Spells p.2 (p.1.prettyChars (level + 1))) :
    Spells (.array (items.map Prod.snd) true)
      ((Json.array (items.map Prod.fst)).prettyChars level) := by
  have text : (Json.array (items.map Prod.fst)).prettyChars level =
      '[' :: ([','].intercalate ((layAll (lineItem (level + 1)) (Json.newline level) items).map
        Item.text) ++ [']']) := by
    have lines : [','].intercalate ((layAll (lineItem (level + 1)) (Json.newline level) items).map
        Item.text) = [','].intercalate (items.map fun p => Json.newline (level + 1) ++
          p.1.prettyChars (level + 1)) ++ Json.newline level :=
      intercalate_layAll (fun back p => by simp [lineItem]) some_item
    rw [lines]
    obtain ⟨p, ps, rfl⟩ := List.exists_cons_of_ne_nil some_item
    rw [List.map_cons, Json.prettyChars, ← List.map_cons, prettyItems_eq, List.map_map]
    rfl
  have trees : (layAll (lineItem (level + 1)) (Json.newline level) items).map Item.tree =
      items.map Prod.snd := map_layAll (by simp [lineItem]) items
  rw [text, ← trees]
  refine .array (layAll_ne_nil some_item)
    (forall_mem_layAll fun p hp => ⟨each p hp, each p hp⟩) (forall_mem_layAll fun p _ => ⟨?_, ?_⟩)
  · exact ⟨_, [], spaces_newline _, spaces_nil, rfl⟩
  · exact ⟨_, _, spaces_newline _, spaces_newline _, rfl⟩

/-- A member on a line of its own. -/
def lineMember (level : Nat) (back : List Char) (p : (String × Json) × Tree) : Member :=
  ⟨some p.1.1, Json.newline level ++ Json.quoted p.1.1,
    ⟨p.2, p.1.2.prettyChars level, ' ' :: (p.1.2.prettyChars level ++ back)⟩⟩

/-- An object is spelled if the value of each of its members is. -/
theorem spells_object (level : Nat) (members : List ((String × Json) × Tree))
    (some_member : members ≠ [])
    (each : ∀ p ∈ members, Spells p.2 (p.1.2.prettyChars (level + 1))) :
    Spells (.object (members.map fun p => (some p.1.1, p.2)) true)
      ((Json.object (members.map Prod.fst)).prettyChars level) := by
  have text : (Json.object (members.map Prod.fst)).prettyChars level =
      '\x7b' :: ([','].intercalate ((layAll (lineMember (level + 1)) (Json.newline level)
        members).map Member.text) ++ ['\x7d']) := by
    have lines : [','].intercalate ((layAll (lineMember (level + 1)) (Json.newline level)
        members).map Member.text) = [','].intercalate (members.map fun p =>
          Json.newline (level + 1) ++
            (Json.quoted p.1.1 ++ ':' :: ' ' :: p.1.2.prettyChars (level + 1))) ++
          Json.newline level :=
      intercalate_layAll (fun back p => by simp [lineMember, Member.text]) some_member
    rw [lines]
    obtain ⟨p, ps, rfl⟩ := List.exists_cons_of_ne_nil some_member
    rw [List.map_cons, Json.prettyChars, ← List.map_cons, prettyMembers_eq, List.map_map]
    rfl
  have blank : Spaces [' '] := by simp [Spaces, isSpace]
  have entries : (layAll (lineMember (level + 1)) (Json.newline level) members).map Member.entry =
      members.map fun p => (some p.1.1, p.2) := map_layAll (by simp [lineMember, Member.entry]) members
  rw [text, ← entries]
  refine .object (layAll_ne_nil some_member) (forall_mem_layAll fun p _ => ⟨?_, ?_⟩)
    (forall_mem_layAll fun p hp => ⟨each p hp, each p hp⟩) (forall_mem_layAll fun p _ => ⟨?_, ?_⟩)
  · exact ⟨_, stringText_quoted p.1.1, _, [], spaces_newline (level + 1), spaces_nil,
      by simp [lineMember]⟩
  · exact ⟨_, stringText_quoted p.1.1, _, [], spaces_newline (level + 1), spaces_nil,
      by simp [lineMember]⟩
  · exact ⟨_, [], blank, spaces_nil, rfl⟩
  · exact ⟨_, _, blank, spaces_newline _, rfl⟩

/-! ### Values -/

/-- What is there for each member of a list is there for all of them together. -/
theorem exists_pairs {α β : Type} {P : α → β → Prop} {l : List α} (each : ∀ a ∈ l, ∃ b, P a b) :
    ∃ pairs : List (α × β), pairs.map Prod.fst = l ∧ ∀ p ∈ pairs, P p.1 p.2 := by
  induction l with
  | nil => exact ⟨[], rfl, by simp⟩
  | cons a l ih =>
      rw [List.forall_mem_cons] at each
      obtain ⟨b, first⟩ := each.1
      obtain ⟨pairs, rfl, rest⟩ := ih each.2
      exact ⟨(a, b) :: pairs, rfl, List.forall_mem_cons.mpr ⟨first, rest⟩⟩

/-- Everything that is written for a value spells some tree. -/
theorem exists_spells : ∀ (v : Json) (level : Nat), ∃ t, Spells t (v.prettyChars level)
  | .null, _ => ⟨_, .null⟩
  | .bool true, _ => ⟨_, .trueWord⟩
  | .bool false, _ => ⟨_, .falseWord⟩
  | .number (.int n), _ => ⟨_, (spells_int n).choose_spec⟩
  | .number (.real x), _ => ⟨_, (spells_real x).choose_spec⟩
  | .string s, _ => ⟨_, .string (stringText_quoted s)⟩
  | .array [], _ => ⟨_, .emptyArray spaces_nil⟩
  | .object [], _ => ⟨_, .emptyObject spaces_nil⟩
  | .array (v :: vs), level => by
      have each : ∀ w ∈ v :: vs, ∃ t, Spells t (w.prettyChars (level + 1)) := fun w _ =>
        exists_spells w (level + 1)
      obtain ⟨pairs, same, spelled⟩ := exists_pairs each
      rw [← same]
      exact ⟨_, spells_array level pairs (by rintro rfl; cases same) spelled⟩
  | .object (m :: ms), level => by
      have each : ∀ n ∈ m :: ms, ∃ t, Spells t (n.2.prettyChars (level + 1)) := fun n _ =>
        exists_spells n.2 (level + 1)
      obtain ⟨pairs, same, spelled⟩ := exists_pairs each
      rw [← same]
      exact ⟨_, spells_object level pairs (by rintro rfl; cases same) spelled⟩
termination_by v => sizeOf v
decreasing_by
  · rename_i there
    have smaller := List.sizeOf_lt_of_mem there
    simp only [Json.array.sizeOf_spec]
    omega
  · rename_i there
    have smaller := List.sizeOf_lt_of_mem there
    obtain ⟨name, w⟩ := n
    simp only [Json.object.sizeOf_spec, Prod.mk.sizeOf_spec] at smaller ⊢
    omega

end Tree

end WifiStation
