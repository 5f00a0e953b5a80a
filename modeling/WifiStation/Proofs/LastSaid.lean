import Mathlib.Data.List.Induction

/-!
# WifiStation.Proofs.LastSaid

What a fold knows is what the last input that speaks of it has said.

A fact about the state of a fold is settled by some inputs and left alone by all others. Then after
any number of inputs the last one that settles it decides (`foldl_iff_last`), in the state that it
was taken in; if there is none, the fact is what it was at the start. `Last` names that input,
together with the inputs before it, which lead to that state.
-/

namespace WifiStation

variable {α State : Type}

/-- In a list, `a` stands behind `before`, has a property, and is the last that has it. -/
structure Last (P : α → Prop) (l before : List α) (a : α) : Prop where
  holds : P a
  rest : ∃ later, l = before ++ a :: later ∧ ∀ b ∈ later, ¬ P b

theorem not_last_nil {P : α → Prop} {before : List α} {a : α} : ¬ Last P [] before a := by
  intro h
  obtain ⟨later, split, -⟩ := h.rest
  simp at split

/-- A list with one more behind it is cut either before that one or earlier. -/
theorem concat_eq_append_cons {l before later : List α} {a b : α} :
    l ++ [b] = before ++ a :: later ↔
      (l = before ∧ b = a ∧ later = []) ∨
        ∃ others, l = before ++ a :: others ∧ later = others ++ [b] := by
  constructor
  · intro split
    rcases List.eq_nil_or_concat later with rfl | ⟨others, c, rfl⟩
    · obtain ⟨front, back⟩ := List.append_inj' split rfl
      exact .inl ⟨front, List.singleton_inj.mp back, rfl⟩
    · have split : l ++ [b] = (before ++ a :: others) ++ [c] := by simpa using split
      obtain ⟨front, back⟩ := List.append_inj' split rfl
      exact .inr ⟨others, front, by rw [List.singleton_inj.mp back, List.concat_eq_append]⟩
  · rintro (⟨rfl, rfl, rfl⟩ | ⟨others, rfl, rfl⟩)
    · rfl
    · simp

/-- At the end of a list, one that has the property is the last. -/
theorem last_concat_of {P : α → Prop} {l before : List α} {a b : α} (hb : P b) :
    Last P (l ++ [b]) before a ↔ before = l ∧ a = b := by
  constructor
  · intro h
    obtain ⟨later, split, none⟩ := h.rest
    rcases concat_eq_append_cons.mp split with ⟨rfl, rfl, -⟩ | ⟨others, -, rfl⟩
    · exact ⟨rfl, rfl⟩
    · exact absurd hb (none b (by simp))
  · rintro ⟨rfl, rfl⟩
    exact ⟨hb, [], rfl, by simp⟩

/-- At the end of a list, one without the property does not count. -/
theorem last_concat_of_not {P : α → Prop} {l before : List α} {a b : α} (hb : ¬ P b) :
    Last P (l ++ [b]) before a ↔ Last P l before a := by
  constructor
  · intro h
    obtain ⟨later, split, none⟩ := h.rest
    rcases concat_eq_append_cons.mp split with ⟨rfl, rfl, -⟩ | ⟨others, rfl, rfl⟩
    · exact absurd h.holds hb
    · exact ⟨h.holds, others, rfl, fun c hc => none c (by simp [hc])⟩
  · intro h
    obtain ⟨later, rfl, none⟩ := h.rest
    refine ⟨h.holds, later ++ [b], by simp, ?_⟩
    intro c hc
    rcases List.mem_append.mp hc with earlier | last
    · exact none c earlier
    · rwa [List.mem_singleton.mp last]

/-- A fact that inputs with a property settle and all others leave alone is what the last of them
has told, or what it was at the start. -/
theorem foldl_iff_last {take : State → α → State} (P : α → Prop) (fact : State → Prop)
    (told : State → α → Prop) (settles : ∀ s a, P a → (fact (take s a) ↔ told s a))
    (leaves : ∀ s a, ¬ P a → (fact (take s a) ↔ fact s)) (s : State) (l : List α) :
    fact (l.foldl take s) ↔
      (∃ before a, Last P l before a ∧ told (before.foldl take s) a) ∨
        (∀ a ∈ l, ¬ P a) ∧ fact s := by
  induction l using List.reverseRecOn with
  | nil => simp [not_last_nil]
  | append_singleton l a ih =>
      rw [List.foldl_append, List.foldl_cons, List.foldl_nil]
      -- either the last input is the one that counts, or it does not count at all
      by_cases speaks : P a
      · rw [settles _ a speaks]
        constructor
        · intro h
          exact .inl ⟨l, a, (last_concat_of speaks).mpr ⟨rfl, rfl⟩, h⟩
        · rintro (⟨before, b, last, h⟩ | ⟨none, -⟩)
          · obtain ⟨rfl, rfl⟩ := (last_concat_of speaks).mp last
            exact h
          · exact absurd speaks (none a (by simp))
      · have none_iff : (∀ b ∈ l ++ [a], ¬ P b) ↔ ∀ b ∈ l, ¬ P b := by
          rw [List.forall_mem_append, List.forall_mem_singleton]
          exact and_iff_left speaks
        rw [leaves _ a speaks, ih, none_iff]
        simp only [last_concat_of_not speaks]

end WifiStation
