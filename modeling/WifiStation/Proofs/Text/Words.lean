import Mathlib.Data.List.DropRight
import WifiStation.Text.Split

/-!
# WifiStation.Proofs.Text.Words

Words, and the blanks around them.

`word?` and `trim` are tied to the shape of the text. A word is taken off a text exactly if the text
is blanks, a word, and a rest that cannot lengthen the word (`word?_eq_some_iff`); what `trim` leaves
is the part between the blanks at both ends (`trim_eq_iff`).

With more text behind it (`word?_append`), the first word stays as it is unless it reached the end of
the text; blanks alone lengthen no word (`word?_append_blanks`) and are trimmed away again
(`trim_append_blanks`).
-/

namespace WifiStation.Text

/-- A text of blanks, which may be empty. -/
def Blanks (s : List Char) : Prop := ∀ c ∈ s, isBlank c = true

/-- A text with something in it and no blank. -/
structure IsWord (w : List Char) : Prop where
  ne_nil : w ≠ []
  no_blank : ∀ c ∈ w, isBlank c = false

-- The characters of the text are tried, and not all that there are.
instance : DecidablePred Blanks := fun s => List.decidableBAll (isBlank · = true) s

instance : DecidablePred IsWord := fun w =>
  have : Decidable (∀ c ∈ w, isBlank c = false) := List.decidableBAll (isBlank · = false) w
  decidable_of_iff (w ≠ [] ∧ ∀ c ∈ w, isBlank c = false)
    ⟨fun h => ⟨h.1, h.2⟩, fun h => ⟨h.ne_nil, h.no_blank⟩⟩

theorem Blanks.append {s t : List Char} (hs : Blanks s) (ht : Blanks t) : Blanks (s ++ t) := by
  intro c hc
  rcases List.mem_append.mp hc with hc | hc
  · exact hs c hc
  · exact ht c hc

theorem Blanks.nil : Blanks [] := by simp [Blanks]

theorem Blanks.endsWord {s : List Char} (h : Blanks s) : endsWord s = true := by
  cases s with
  | nil => rfl
  | cons c s => exact h c List.mem_cons_self

theorem endsWord_append {s : List Char} (nonempty : s ≠ []) (t : List Char) :
    endsWord (s ++ t) = endsWord s := by
  cases s with
  | nil => exact absurd rfl nonempty
  | cons c s => rfl

/-- What stands behind the characters of a word ends it. -/
theorem endsWord_dropWhile (s : List Char) : endsWord (s.dropWhile (!isBlank ·)) = true := by
  have stop := List.head?_dropWhile_not (!isBlank ·) s
  cases left : s.dropWhile (!isBlank ·) with
  | nil => rfl
  | cons c rest => simpa [left, endsWord] using stop

/-! ### The next word -/

theorem trimStart_append {gap : List Char} (blanks : Blanks gap) (s : List Char) :
    trimStart (gap ++ s) = trimStart s :=
  List.dropWhile_append_of_pos blanks

theorem trimStart_of_word {w : List Char} (word : IsWord w) (s : List Char) :
    trimStart (w ++ s) = w ++ s := by
  cases w with
  | nil => exact absurd rfl word.ne_nil
  | cons c w =>
      have first : isBlank c = false := word.no_blank c List.mem_cons_self
      simp [trimStart, first]

/-- What is left behind the blanks at the start is the part of the text that starts with none. -/
theorem trimStart_eq_iff {s t : List Char} :
    trimStart s = t ↔
      (∃ gap, Blanks gap ∧ s = gap ++ t) ∧ ∀ c, t.head? = some c → isBlank c = false := by
  constructor
  · intro h
    subst h
    refine ⟨⟨s.takeWhile isBlank, fun c hc => List.mem_takeWhile_imp hc,
      List.takeWhile_append_dropWhile.symm⟩, ?_⟩
    intro c first
    have stop := List.head?_dropWhile_not isBlank s
    rw [show (s.dropWhile isBlank).head? = some c from first] at stop
    simpa using stop
  · rintro ⟨⟨gap, blanks, rfl⟩, first⟩
    rw [trimStart_append blanks]
    cases t with
    | nil => rfl
    | cons c t => simp [trimStart, first c rfl]

/-- Characters that no blank is among are taken up to the blank behind them, or the end of the
text. -/
theorem span_of_endsWord {p : Char → Bool} {w rest : List Char}
    (stops : ∀ c, isBlank c = true → p c = false) (chars : ∀ c ∈ w, p c = true)
    (ends : endsWord rest = true) :
    (w ++ rest).takeWhile p = w ∧ (w ++ rest).dropWhile p = rest := by
  rw [List.takeWhile_append_of_pos chars, List.dropWhile_append_of_pos chars]
  cases rest with
  | nil => simp
  | cons c rest =>
      have stop : p c = false := stops c ends
      simp [stop]

/-- The word behind blanks is the next one. -/
theorem word?_of_gap {gap w rest : List Char} (blanks : Blanks gap) (word : IsWord w)
    (ends : endsWord rest = true) : word? (gap ++ (w ++ rest)) = some (w, rest) := by
  have letters : ∀ c ∈ w, (!isBlank c) = true := by simpa using word.no_blank
  obtain ⟨front, back⟩ := span_of_endsWord (fun c blank => by simp [blank]) letters ends
  rw [word?, trimStart_append blanks, trimStart_of_word word, front, back]
  simp [word.ne_nil]

theorem exists_gap_of_word? {s w rest : List Char} (h : word? s = some (w, rest)) :
    ∃ gap, Blanks gap ∧ IsWord w ∧ endsWord rest = true ∧ s = gap ++ (w ++ rest) := by
  have nonempty : w ≠ [] := word?_ne_nil h
  simp only [word?] at h
  split at h
  · cases h
  · cases h
    refine ⟨s.takeWhile isBlank, fun c hc => List.mem_takeWhile_imp hc, ⟨nonempty, ?_⟩,
      endsWord_dropWhile _, ?_⟩
    · intro c hc
      simpa using List.mem_takeWhile_imp hc
    · rw [List.takeWhile_append_dropWhile, trimStart, List.takeWhile_append_dropWhile]

/-- A word is taken off a text if and only if the text is blanks, the word, and a rest that ends the
word. -/
theorem word?_eq_some_iff {s w rest : List Char} :
    word? s = some (w, rest) ↔
      ∃ gap, Blanks gap ∧ IsWord w ∧ endsWord rest = true ∧ s = gap ++ (w ++ rest) := by
  constructor
  · exact exists_gap_of_word?
  · rintro ⟨gap, blanks, word, ends, rfl⟩
    exact word?_of_gap blanks word ends

/-- There is no further word exactly if only blanks are left. -/
theorem word?_eq_none_iff {s : List Char} : word? s = none ↔ Blanks s := by
  simp [word?, trimStart, Blanks]

/-- More text behind a text lengthens its first word only if that reached the end. -/
theorem word?_append {s w rest : List Char} (h : word? s = some (w, rest)) (more : List Char) :
    word? (s ++ more) = some
      (if rest = [] then (w ++ more.takeWhile (!isBlank ·), more.dropWhile (!isBlank ·))
       else (w, rest ++ more)) := by
  obtain ⟨gap, blanks, word, ends, rfl⟩ := exists_gap_of_word? h
  split
  · rename_i reached
    subst reached
    have longer : IsWord (w ++ more.takeWhile (!isBlank ·)) := by
      refine ⟨by simp [word.ne_nil], fun c hc => ?_⟩
      rcases List.mem_append.mp hc with hc | hc
      · exact word.no_blank c hc
      · simpa using List.mem_takeWhile_imp hc
    have parts : gap ++ (w ++ []) ++ more =
        gap ++ (w ++ more.takeWhile (!isBlank ·) ++ more.dropWhile (!isBlank ·)) := by
      simp
    rw [parts, word?_of_gap blanks longer (endsWord_dropWhile more)]
  · rename_i left
    have stop : endsWord (rest ++ more) = true := by rw [endsWord_append left, ends]
    rw [List.append_assoc, List.append_assoc, word?_of_gap blanks word stop]

/-- Blanks behind a text lengthen no word. -/
theorem word?_append_blanks (s : List Char) {bs : List Char} (blanks : Blanks bs) :
    word? (s ++ bs) = (word? s).map fun p => (p.1, p.2 ++ bs) := by
  cases first : word? s with
  | none => exact word?_eq_none_iff.mpr ((word?_eq_none_iff.mp first).append blanks)
  | some p =>
      obtain ⟨gap, lead, word, ends, rfl⟩ := exists_gap_of_word? first
      have stop : endsWord (p.2 ++ bs) = true := by
        cases rest : p.2 with
        | nil => exact blanks.endsWord
        | cons c rest' => rwa [rest] at ends
      rw [List.append_assoc, List.append_assoc, word?_of_gap lead word stop]
      rfl

/-! ### Blanks at both ends -/

/-- A text and what is left of it without the blanks at both ends. -/
structure Trims (s core : List Char) : Prop where
  split : ∃ front back, Blanks front ∧ Blanks back ∧ s = front ++ (core ++ back)
  first : ∀ c, core.head? = some c → isBlank c = false
  last : ∀ c, core.getLast? = some c → isBlank c = false

theorem trimEnd_append_blanks (s : List Char) {bs : List Char} (blanks : Blanks bs) :
    trimEnd (s ++ bs) = trimEnd s := by
  have reversed : ∀ c ∈ bs.reverse, isBlank c = true := fun c hc => blanks c (List.mem_reverse.mp hc)
  rw [trimEnd, trimEnd, List.reverse_append, List.dropWhile_append_of_pos reversed]

/-- Blanks are taken off the end only behind the last character that is none. -/
theorem trimEnd_append {core : List Char}
    (last : ∀ c, core.getLast? = some c → isBlank c = false) (s : List Char) :
    trimEnd (core ++ s) = core ++ trimEnd s := by
  have whole : core.reverse.dropWhile isBlank = core.reverse := by
    cases mirrored : core.reverse with
    | nil => rfl
    | cons c rest =>
        have blank : isBlank c = false := last c (by simp [← List.head?_reverse, mirrored])
        simp [blank]
  rw [trimEnd, trimEnd, List.reverse_append, List.dropWhile_append, whole]
  cases left : s.reverse.dropWhile isBlank with
  | nil => simp
  | cons c rest => simp

theorem trimStart_append_of_first {core : List Char}
    (first : ∀ c, core.head? = some c → isBlank c = false) (nonempty : core ≠ [])
    (s : List Char) : trimStart (core ++ s) = core ++ s := by
  cases core with
  | nil => exact absurd rfl nonempty
  | cons c core => simp [trimStart, first c rfl]

theorem trims_trim (s : List Char) : Trims s (trim s) := by
  obtain ⟨⟨front, lead, shape⟩, first⟩ := trimStart_eq_iff.mp (rfl : trimStart s = trimStart s)
  have ends : trimEnd (trimStart s) ++ (trimStart s).rtakeWhile isBlank = trimStart s :=
    List.rdropWhile_append_rtakeWhile
  refine ⟨⟨front, (trimStart s).rtakeWhile isBlank, lead, ?_, ?_⟩, ?_, ?_⟩
  · exact fun c hc => List.mem_rtakeWhile_imp hc
  · rwa [trim, ends]
  · intro c hc
    refine first c ?_
    rw [← ends, List.head?_append]
    simp [show (trimEnd (trimStart s)).head? = some c from hc]
  · intro c hc
    obtain ⟨core, shape⟩ := List.getLast?_eq_some_iff.mp hc
    have nonempty : (trimStart s).rdropWhile isBlank ≠ [] := by
      intro empty
      rw [trim, show trimEnd (trimStart s) = [] from empty] at hc
      cases hc
    have stop := List.rdropWhile_last_not isBlank (trimStart s) nonempty
    have shape : (trimStart s).rdropWhile isBlank = core ++ [c] := shape
    simpa [shape] using stop

theorem Trims.trim_append {s core : List Char} (h : Trims s core) (nonempty : core ≠ [])
    (more : List Char) : ∃ back, trim (s ++ more) = core ++ trimEnd (back ++ more) ∧ Blanks back := by
  obtain ⟨front, back, lead, tail, rfl⟩ := h.split
  refine ⟨back, ?_, tail⟩
  rw [trim, List.append_assoc, List.append_assoc, trimStart_append lead,
    trimStart_append_of_first h.first nonempty, trimEnd_append h.last]

theorem Trims.trim_eq {s core : List Char} (h : Trims s core) : trim s = core := by
  cases empty : core with
  | nil =>
      obtain ⟨front, back, lead, tail, rfl⟩ := h.split
      have all : Blanks (front ++ (core ++ back)) := by
        rw [empty, List.nil_append]
        exact lead.append tail
      have gone : trimStart (front ++ (core ++ back)) = [] := List.dropWhile_eq_nil_iff.mpr all
      rw [trim, gone]
      rfl
  | cons c rest =>
      obtain ⟨back, shape, tail⟩ := h.trim_append (by simp [empty]) []
      have gone : trimEnd ([] ++ back) = trimEnd [] := trimEnd_append_blanks [] tail
      rw [List.append_nil, List.append_nil, ← List.nil_append back, gone] at shape
      rw [shape, empty]
      exact List.append_nil _

/-- What is left of a text is the part between the blanks at both ends. -/
theorem trim_eq_iff {s core : List Char} : trim s = core ↔ Trims s core := by
  constructor
  · rintro rfl
    exact trims_trim s
  · exact Trims.trim_eq

/-- Blanks at the end are trimmed anyway. -/
theorem trim_append_blanks (s : List Char) {bs : List Char} (blanks : Blanks bs) :
    trim (s ++ bs) = trim s := by
  obtain ⟨⟨front, back, lead, tail, shape⟩, first, last⟩ := trims_trim s
  refine trim_eq_iff.mpr ⟨⟨front, back ++ bs, lead, tail.append blanks, ?_⟩, first, last⟩
  rw [← List.append_assoc (trim s), ← List.append_assoc front, ← shape]

/-- The start of a text, trimmed, is a start of the text, trimmed. -/
theorem trim_prefix_append (s more : List Char) : trim s <+: trim (s ++ more) := by
  by_cases empty : trim s = []
  · rw [empty]
    exact List.nil_prefix
  · obtain ⟨back, shape, -⟩ := (trims_trim s).trim_append empty more
    rw [shape]
    exact List.prefix_append _ _

end WifiStation.Text
