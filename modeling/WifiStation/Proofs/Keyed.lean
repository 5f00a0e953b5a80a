import WifiStation.Keyed
import Mathlib.Data.List.Nodup
import Mathlib.Data.List.Perm.Subperm

/-!
# WifiStation.Proofs.Keyed

Finite maps seen from their entries.

`Keyed.get?` is the view that the operations of a map are described by. This module relates the
view to the entries behind it:

* `get?_eq_some_iff` — a key has a value exactly when the pair is an entry, so a search through
  the entries is a statement about the view (`any_entries_iff`);
* `get?_foldl_insert` — of several insertions the last one for a key counts; and
* `size_le_length`, `size_eq_length_iff` — a map whose values are told apart by an image in a list
  is no larger than that list, and as large only if nothing of the list is left over. This is the
  counting argument behind "no more bindings than addresses".
-/

namespace WifiStation.Keyed

variable {κ : Type u} {α : Type v} [DecidableEq κ]

/-! ### Entries and the view -/

/-- Keys are distinct, so the first entry of a key is its only one. -/
theorem get?_eq_some_iff (m : Keyed κ α) (k : κ) (a : α) :
    m.get? k = some a ↔ (k, a) ∈ m.entries := by
  constructor
  · intro h
    obtain ⟨x, hx, rfl⟩ := Option.map_eq_some_iff.mp h
    have hk : x.1 = k := by simpa using List.find?_some hx
    rw [← hk]
    exact List.mem_of_find?_eq_some hx
  · intro h
    cases hf : m.entries.find? (·.1 = k) with
    | none =>
        have := List.find?_eq_none.mp hf (k, a) h
        simp at this
    | some x =>
        have hk : x.1 = k := by simpa using List.find?_some hf
        have hx : x = (k, a) :=
          List.inj_on_of_nodup_map m.nodup (List.mem_of_find?_eq_some hf) h hk
        rw [get?, hf, hx]
        rfl

/-- A test passes for some entry exactly when it passes for some key and its value. -/
theorem any_entries_iff (m : Keyed κ α) (P : κ × α → Bool) :
    m.entries.any P = true ↔ ∃ k a, m.get? k = some a ∧ P (k, a) = true := by
  rw [List.any_eq_true]
  constructor
  · rintro ⟨⟨k, a⟩, hx, hp⟩
    exact ⟨k, a, (get?_eq_some_iff m k a).mpr hx, hp⟩
  · rintro ⟨k, a, hx, hp⟩
    exact ⟨(k, a), (get?_eq_some_iff m k a).mp hx, hp⟩

/-- After several insertions, a key has the value that was inserted for it last. -/
theorem get?_foldl_insert (m : Keyed κ α) (ps : List (κ × α)) (k : κ) :
    (ps.foldl (fun m p => m.insert p.1 p.2) m).get? k = (ps.reverse.lookup k).or (m.get? k) := by
  induction ps generalizing m with
  | nil => simp
  | cons p ps ih =>
      obtain ⟨k', a⟩ := p
      rw [List.foldl_cons, ih, get?_insert, List.reverse_cons, List.lookup_append, Option.or_assoc]
      by_cases same : k = k'
      · simp [same]
      · simp [same, List.lookup_cons, beq_false_of_ne same]

/-! ### Size -/

section

variable {β : Type w} (m : Keyed κ α) (f : α → β) (targets : List β)
    (mem : ∀ k a, m.get? k = some a → f a ∈ targets)
    (inj : ∀ k k' a a', m.get? k = some a → m.get? k' = some a' → f a = f a' → k = k')

include mem inj

/-- If different keys have different images, the images are a part of any list that holds them. -/
theorem images_subperm : (m.entries.map fun x => f x.2).Subperm targets := by
  have nodup : (m.entries.map fun x => f x.2).Nodup := by
    refine List.Nodup.map_on ?_ (List.Nodup.of_map Prod.fst m.nodup)
    intro x hx y hy hxy
    have hk : x.1 = y.1 :=
      inj x.1 y.1 x.2 y.2 ((get?_eq_some_iff m _ _).mpr hx) ((get?_eq_some_iff m _ _).mpr hy) hxy
    exact List.inj_on_of_nodup_map m.nodup hx hy hk
  refine nodup.subperm ?_
  intro b hb
  obtain ⟨x, hx, rfl⟩ := List.mem_map.mp hb
  exact mem x.1 x.2 ((get?_eq_some_iff m _ _).mpr hx)

/-- A map is no larger than a list that holds an image of every value, if different keys have
different images. -/
theorem size_le_length : m.size ≤ targets.length := by
  calc m.size = (m.entries.map fun x => f x.2).length := by simp [size]
    _ ≤ targets.length := (images_subperm m f targets mem inj).length_le

/-- It is as large as the list exactly if everything in the list is an image. -/
theorem size_eq_length_iff (distinct : targets.Nodup) :
    m.size = targets.length ↔ ∀ b ∈ targets, ∃ k a, m.get? k = some a ∧ f a = b := by
  have sub := images_subperm m f targets mem inj
  have count : m.size = (m.entries.map fun x => f x.2).length := by simp [size]
  constructor
  · intro full b hb
    have perm := sub.perm_of_length_le (Nat.le_of_eq (full.symm.trans count))
    obtain ⟨x, hx, hf⟩ := List.mem_map.mp (perm.mem_iff.mpr hb)
    exact ⟨x.1, x.2, (get?_eq_some_iff m _ _).mpr hx, hf⟩
  · intro every
    have rev : targets.Subperm (m.entries.map fun x => f x.2) := by
      refine distinct.subperm ?_
      intro b hb
      obtain ⟨k, a, hk, rfl⟩ := every b hb
      exact List.mem_map.mpr ⟨(k, a), (get?_eq_some_iff m k a).mp hk, rfl⟩
    rw [count]
    exact Nat.le_antisymm sub.length_le rev.length_le

end

end WifiStation.Keyed
