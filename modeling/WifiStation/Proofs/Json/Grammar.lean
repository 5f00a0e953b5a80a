import WifiStation.Json.Tree
import WifiStation.Proofs.Text.Number

/-!
# WifiStation.Proofs.Json.Grammar

The texts of the data format, as a grammar that mentions no reader.

`Tree.Spells t s` says that `s` is a text of the tree `t`. A string is characters as they stand and
escapes, in any mixture; a number has no leading zero, and its exponent may have either sign or none.
Blanks may stand between the signs of an array or object and around the names and values in it
(`Around`), but not around the whole.
-/

namespace WifiStation.Tree

open WifiStation.Text

/-! ### Numbers -/

/-- The part of a number behind its whole part. -/
def fractionText (digits : List Char) : List Char := if digits = [] then [] else '.' :: digits

/-- A letter and the digits of an exponent, with a sign or without one. -/
inductive ExponentText : Option (Bool × List Char) → List Char → Prop
  | none : ExponentText none []
  | bare {mark : Char} {ds : List Char} (letter : mark = 'e' ∨ mark = 'E') (digits : IsDigits ds) :
      ExponentText (some (false, ds)) (mark :: ds)
  | plus {mark : Char} {ds : List Char} (letter : mark = 'e' ∨ mark = 'E') (digits : IsDigits ds) :
      ExponentText (some (false, ds)) (mark :: '+' :: ds)
  | minus {mark : Char} {ds : List Char} (letter : mark = 'e' ∨ mark = 'E') (digits : IsDigits ds) :
      ExponentText (some (true, ds)) (mark :: '-' :: ds)

/-- A number behind its sign. -/
structure UnsignedText (n : NumberLexeme) (s : List Char) : Prop where
  whole : IsDigits n.whole
  no_leading_zero : n.whole.head? = some '0' → n.whole.length ≤ 1
  fraction : ∀ c ∈ n.fraction, isDigit c = true
  split : ∃ exponent, ExponentText n.exponent exponent ∧
    s = n.whole ++ (fractionText n.fraction ++ exponent)

/-! ### Strings -/

/-- What stands between the quotes of a string, and the units that it stands for. -/
inductive Units : List StringUnit → List Char → Prop
  | nil : Units [] []
  | plain {c : Char} {us : List StringUnit} {s : List Char} (no_quote : c ≠ '"')
      (no_escape : c ≠ '\\') (no_control : ¬ c.toNat < 0x20) (rest : Units us s) :
      Units (.char c :: us) (c :: s)
  | short {e c : Char} {us : List StringUnit} {s : List Char} (escape : simpleEscape? e = some c)
      (rest : Units us s) : Units (.char c :: us) ('\\' :: e :: s)
  | code {a b c d : Char} {n : Nat} {us : List StringUnit} {s : List Char}
      (digits : accumulate? 16 0 [a, b, c, d] = some n) (rest : Units us s) :
      Units (.unit n :: us) ('\\' :: 'u' :: a :: b :: c :: d :: s)

/-- A string in quotes. -/
def StringText (text : TreeText) (s : List Char) : Prop :=
  ∃ us body, Units us body ∧ text = (textOf us).map String.ofList ∧ s = '"' :: (body ++ ['"'])

/-! ### Values -/

/-- A text of blanks, which may be empty. -/
def Spaces (s : List Char) : Prop := ∀ c ∈ s, isSpace c = true

/-- A text with blanks around it. -/
def Around (core s : List Char) : Prop :=
  ∃ front back, Spaces front ∧ Spaces back ∧ s = front ++ (core ++ back)

/-- A value in an array or object, its text, and its text with blanks around it. -/
structure Item where
  tree : Tree
  core : List Char
  text : List Char

/-- A member of an object, with the text of its name. -/
structure Member where
  name : TreeText
  nameText : List Char
  value : Item

namespace Member

/-- The name and the value of a member. -/
def entry (m : Member) : TreeText × Tree := (m.name, m.value.tree)

/-- The text of a member. -/
def text (m : Member) : List Char := m.nameText ++ ':' :: m.value.text

/-- A name is a string, with blanks around it. -/
def Named (m : Member) : Prop := ∃ core, StringText m.name core ∧ Around core m.nameText

end Member

/-- A text of a tree. -/
inductive Spells : Tree → List Char → Prop
  | null : Spells .null ['n', 'u', 'l', 'l']
  | trueWord : Spells (.bool true) ['t', 'r', 'u', 'e']
  | falseWord : Spells (.bool false) ['f', 'a', 'l', 's', 'e']
  | number {n : NumberLexeme} {s : List Char} (text : UnsignedText n s) :
      Spells (.number n) ((if n.negative then ['-'] else []) ++ s)
  | string {t : TreeText} {s : List Char} (text : StringText t s) : Spells (.string t) s
  | emptyArray {gap : List Char} (blanks : Spaces gap) :
      Spells (.array [] true) ('[' :: (gap ++ [']']))
  | array {items : List Item} (some_item : items ≠ []) (each : ∀ i ∈ items, Spells i.tree i.core)
      (around : ∀ i ∈ items, Around i.core i.text) :
      Spells (.array (items.map Item.tree) true)
        ('[' :: ([','].intercalate (items.map Item.text) ++ [']']))
  | emptyObject {gap : List Char} (blanks : Spaces gap) :
      Spells (.object [] true) ('\x7b' :: (gap ++ ['\x7d']))
  | object {members : List Member} (some_member : members ≠ [])
      (named : ∀ m ∈ members, m.Named)
      (each : ∀ m ∈ members, Spells m.value.tree m.value.core)
      (around : ∀ m ∈ members, Around m.value.core m.value.text) :
      Spells (.object (members.map Member.entry) true)
        ('\x7b' :: ([','].intercalate (members.map Member.text) ++ ['\x7d']))

/-- A whole text of a tree, with blanks around it. -/
def Writes (t : Tree) (s : List Char) : Prop := ∃ core, Spells t core ∧ Around core s

theorem spaces_nil : Spaces [] := by simp [Spaces]

theorem around_self (s : List Char) : Around s s := ⟨[], [], spaces_nil, spaces_nil, by simp⟩

theorem Spaces.skipSpace_append {gap : List Char} (blanks : Spaces gap) (s : List Char) :
    skipSpace (gap ++ s) = skipSpace s :=
  List.dropWhile_append_of_pos blanks

end WifiStation.Tree
