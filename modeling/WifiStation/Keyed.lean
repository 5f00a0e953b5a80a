/-!
# WifiStation.Keyed

Finite maps as entries with distinct keys.

The view of a map is `get?`; `insert` and `erase` are described by what they do to it
(`get?_insert`, `get?_erase`). That keys are distinct is part of the type, so `size` counts keys.
-/

namespace WifiStation

/-- A finite map from keys to values. -/
structure Keyed (κ : Type u) (α : Type v) where
  /-- The entries, in no particular order. -/
  entries : List (κ × α)
  /-- No key stands twice. -/
  nodup : (entries.map Prod.fst).Nodup

namespace Keyed

variable {κ : Type u} {α : Type v} [DecidableEq κ]

/-- The map without entries. -/
def empty : Keyed κ α := ⟨[], .nil⟩

instance : Inhabited (Keyed κ α) := ⟨empty⟩

/-- The number of keys. -/
def size (m : Keyed κ α) : Nat := m.entries.length

/-- The keys. -/
def keys (m : Keyed κ α) : List κ := m.entries.map Prod.fst

/-- The value of a key. -/
def get? (m : Keyed κ α) (k : κ) : Option α := (m.entries.find? (·.1 = k)).map Prod.snd

/-- Without the entry of a key. -/
def erase (m : Keyed κ α) (k : κ) : Keyed κ α :=
  ⟨m.entries.filter (·.1 ≠ k), m.nodup.sublist (List.filter_sublist.map Prod.fst)⟩

theorem not_mem_keys_erase (m : Keyed κ α) (k : κ) : k ∉ (m.erase k).keys := by
  simp [erase, keys]

/-- With `a` as the value of `k`, whatever it was before. -/
def insert (m : Keyed κ α) (k : κ) (a : α) : Keyed κ α :=
  ⟨(k, a) :: (m.erase k).entries, List.nodup_cons.2 ⟨m.not_mem_keys_erase k, (m.erase k).nodup⟩⟩

/-! ### What the operations do to the view -/

@[simp] theorem get?_empty (k : κ) : (empty : Keyed κ α).get? k = none := rfl

theorem get?_erase (m : Keyed κ α) (k k' : κ) :
    (m.erase k).get? k' = if k' = k then none else m.get? k' := by
  simp only [get?, erase, List.find?_filter]
  by_cases h : k' = k
  · subst h
    simp
  · rw [if_neg h]
    congr 2
    funext x
    by_cases hx : x.1 = k'
    · simp [hx, h]
    · simp [hx]

@[simp] theorem get?_erase_self (m : Keyed κ α) (k : κ) : (m.erase k).get? k = none := by
  simp [get?_erase]

theorem get?_insert (m : Keyed κ α) (k k' : κ) (a : α) :
    (m.insert k a).get? k' = if k' = k then some a else m.get? k' := by
  by_cases h : k' = k
  · subst h; simp [get?, insert]
  · have hk : ¬ k = k' := fun e => h e.symm
    have : (m.insert k a).get? k' = (m.erase k).get? k' := by
      simp [get?, insert, hk]
    rw [this, get?_erase, if_neg h, if_neg h]

@[simp] theorem get?_insert_self (m : Keyed κ α) (k : κ) (a : α) :
    (m.insert k a).get? k = some a := by
  simp [get?_insert]

end Keyed

end WifiStation
