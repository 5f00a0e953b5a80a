import WifiStation.Text.Class

/-!
# WifiStation.Text.Split

Taking text apart: at a separator, into lines, and at blanks.

* `pieces` cuts at every separator and keeps empty pieces: one piece more than separators.
* `lines` ends a line at a line feed, drops one carriage return before it, and reads a text that
  ends in a line feed as having no further line.
* `trimStart`, `trimEnd` and `trim` remove blanks, `word?` takes the next run of characters that
  are not blank.
-/

namespace WifiStation.Text

/-! ### Pieces and lines -/

/-- Cuts at every `sep`. -/
def pieces (sep : Char) : List Char → List (List Char)
  | [] => [[]]
  | c :: rest =>
    if c = sep then [] :: pieces sep rest
    else match pieces sep rest with
      | [] => [[c]]
      | p :: ps => (c :: p) :: ps

theorem pieces_ne_nil (sep : Char) (s : List Char) : pieces sep s ≠ [] := by
  cases s with
  | nil => simp [pieces]
  | cons c rest =>
    unfold pieces
    split
    · simp
    · split <;> simp

/-- Drops one carriage return at the end. -/
def dropReturn : List Char → List Char
  | [] => []
  | ['\r'] => []
  | c :: rest => c :: dropReturn rest

/-- The lines among the pieces between line feeds: the last piece has no line feed behind it, and
is a line only if it is not empty. -/
def linesOfPieces : List (List Char) → List (List Char)
  | [] => []
  | [last] => if last.isEmpty then [] else [last]
  | p :: ps => dropReturn p :: linesOfPieces ps

/-- The lines of a text. -/
def lines (s : List Char) : List (List Char) := linesOfPieces (pieces '\n' s)

/-! ### Blanks -/

/-- Without the blanks at the start. -/
def trimStart (s : List Char) : List Char := s.dropWhile isBlank

/-- Without the blanks at the end. -/
def trimEnd (s : List Char) : List Char := (s.reverse.dropWhile isBlank).reverse

/-- Without the blanks at both ends. -/
def trim (s : List Char) : List Char := trimEnd (trimStart s)

/-- The next word and the text behind it; `none` if only blanks are left. -/
def word? (s : List Char) : Option (List Char × List Char) :=
  let t := trimStart s
  if t.isEmpty then none
  else some (t.takeWhile (!isBlank ·), t.dropWhile (!isBlank ·))

/-- The text behind `c`, if it starts with `c`. -/
def after? (c : Char) : List Char → Option (List Char)
  | [] => none
  | d :: rest => if d = c then some rest else none

theorem after?_eq_some_iff {c : Char} {s rest : List Char} :
    after? c s = some rest ↔ s = c :: rest := by
  cases s with
  | nil => simp [after?]
  | cons d more => simp [after?]

/-- Whether a text is empty or starts with a blank. -/
def endsWord : List Char → Bool
  | [] => true
  | c :: _ => isBlank c

/-- A word is not empty. -/
theorem word?_ne_nil {s w rest : List Char} (h : word? s = some (w, rest)) : w ≠ [] := by
  unfold word? at h
  simp only at h
  split at h
  · exact absurd h (by simp)
  · rename_i hne
    simp only [Option.some.injEq, Prod.mk.injEq] at h
    cases ht : trimStart s with
    | nil => simp [ht] at hne
    | cons c r =>
      have hc : isBlank c = false := by
        have := List.head?_dropWhile_not isBlank s
        rw [show s.dropWhile isBlank = c :: r from ht] at this
        simpa using this
      rw [← h.1, ht]
      simp [hc]

end WifiStation.Text
