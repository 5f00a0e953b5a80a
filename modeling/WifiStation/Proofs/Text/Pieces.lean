import Mathlib.Data.List.Forall2
import WifiStation.Text.Split

/-!
# WifiStation.Proofs.Text.Pieces

Texts cut at a separator, and into lines.

`pieces` is the library's `splitOn` (`pieces_eq_splitOn`), so a text is its pieces put together again
with the separator between them. Cutting commutes with putting texts together at a separator
(`pieces_append_cons`).

A line is a piece between line feeds, less a carriage return at its end; behind the last line feed
nothing is no line. To a reader that makes nothing of the empty line and does not mind the carriage
return, neither of this matters: it may as well be given the pieces (`filterMap_lines`).
-/

namespace WifiStation.Text

/-! ### Pieces -/

theorem pieces_cons_self (sep : Char) (s : List Char) : pieces sep (sep :: s) = [] :: pieces sep s := by
  simp [pieces]

theorem pieces_cons_of_ne {sep c : Char} (h : c ≠ sep) (s : List Char) :
    pieces sep (c :: s) = (pieces sep s).modifyHead (c :: ·) := by
  rw [pieces, if_neg h]
  cases rest : pieces sep s with
  | nil => exact absurd rest (pieces_ne_nil sep s)
  | cons p ps => rfl

theorem pieces_eq_splitOn (sep : Char) (s : List Char) : pieces sep s = s.splitOn sep := by
  induction s with
  | nil => simp [pieces, List.splitOn]
  | cons c s ih =>
      rw [List.splitOn_cons_eq_if_modifyHead, ← ih]
      by_cases here : c = sep
      · subst here
        simp [pieces_cons_self]
      · simp [here, pieces_cons_of_ne here]

/-- A text without the separator is one piece. -/
theorem pieces_of_not_mem {sep : Char} {s : List Char} (h : sep ∉ s) : pieces sep s = [s] := by
  rw [pieces_eq_splitOn, List.splitOn_eq_singleton h]

/-- A separator cuts a text into two, each of which is cut by itself. -/
theorem pieces_append_cons (sep : Char) (s t : List Char) :
    pieces sep (s ++ sep :: t) = pieces sep s ++ pieces sep t := by
  induction s with
  | nil => exact pieces_cons_self sep t
  | cons c s ih =>
      by_cases here : c = sep
      · subst here
        rw [List.cons_append, pieces_cons_self, pieces_cons_self, ih, List.cons_append]
      · rw [List.cons_append, pieces_cons_of_ne here, pieces_cons_of_ne here, ih]
        cases rest : pieces sep s with
        | nil => exact absurd rest (pieces_ne_nil sep s)
        | cons p ps => rfl

/-- Reading every piece gives a list exactly if each piece is read as the value in its place. -/
theorem mapM_eq_some_iff {α β : Type} {f : α → Option β} {s : List α} {t : List β} :
    s.mapM f = some t ↔ List.Forall₂ (fun a b => f a = some b) s t := by
  induction s generalizing t with
  | nil => simp [eq_comm]
  | cons a s ih =>
      simp only [List.mapM_cons, Option.pure_def, Option.bind_eq_bind, Option.bind_eq_some_iff,
        Option.some.injEq, List.forall₂_cons_left_iff, ih]
      constructor
      · rintro ⟨b, first, u, rest, rfl⟩
        exact ⟨b, u, first, rest, rfl⟩
      · rintro ⟨b, u, first, rest, rfl⟩
        exact ⟨b, first, u, rest, rfl⟩

/-- Every piece is read if each is. -/
theorem exists_mapM {α β : Type} {f : α → Option β} {s : List α}
    (h : ∀ a ∈ s, ∃ b, f a = some b) : ∃ t, s.mapM f = some t := by
  induction s with
  | nil => exact ⟨[], rfl⟩
  | cons a s ih =>
      obtain ⟨b, first⟩ := h a List.mem_cons_self
      obtain ⟨t, rest⟩ := ih fun a' ha' => h a' (List.mem_cons_of_mem a ha')
      exact ⟨b :: t, by simp [first, rest]⟩

/-! ### Lines -/

/-- A line is its piece, or its piece less a carriage return. -/
theorem dropReturn_eq (s : List Char) : dropReturn s = s ∨ s = dropReturn s ++ ['\r'] := by
  fun_induction dropReturn s with
  | case1 => exact Or.inl rfl
  | case2 => exact Or.inr rfl
  | case3 c s h ih =>
      rcases ih with same | cut
      · exact Or.inl (by rw [same])
      · exact Or.inr (by rw [List.cons_append, ← cut])

/-- Lines can be read from the pieces by a reader to which the empty line and a carriage return at
the end mean nothing. -/
theorem filterMap_lines {α : Type} {f : List Char → Option α} (empty : f [] = none)
    (return_ : ∀ line, f (dropReturn line) = f line) (s : List Char) :
    (lines s).filterMap f = (pieces '\n' s).filterMap f := by
  rw [lines]
  fun_induction linesOfPieces (pieces '\n' s) with
  | case1 => rfl
  | case2 last nothing =>
      rw [List.isEmpty_iff.mp nothing]
      simp [empty]
  | case3 last something => rfl
  | case4 p ps more ih => rw [List.filterMap_cons, List.filterMap_cons, return_, ih]

end WifiStation.Text
