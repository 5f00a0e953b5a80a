/-!
# WifiStation.Watch

A value that others follow.

A `Watch` holds the newest value and counts how often it was written; older values are not kept. A
follower remembers the count at which it last looked, and `Watch.poll` says what it finds: a newer
value, nothing, or that the source is gone. A source that goes away after a last write is first
seen to have changed.
-/

namespace WifiStation

/-- A value that others follow. -/
structure Watch (α : Type) where
  value : α
  /-- How often the value has been written. -/
  version : Nat := 0
  /-- Whether the source is still there. -/
  isOpen : Bool := true
  deriving DecidableEq, Repr

/-- What a follower finds. -/
inductive Watch.Poll where
  | pending
  | changed
  | closed
  deriving DecidableEq, Repr

namespace Watch

variable {α : Type}

/-- Writes a value; followers see a change even if it is the same value. -/
def write (w : Watch α) (a : α) : Watch α := { w with value := a, version := w.version + 1 }

/-- Writes a value if it is another one. -/
def writeIfNew [DecidableEq α] (w : Watch α) (a : α) : Watch α :=
  if w.value = a then w else w.write a

/-- The source goes away. -/
def close (w : Watch α) : Watch α := { w with isOpen := false }

/-- What a follower finds that last looked at version `seen`. -/
def poll (w : Watch α) (seen : Nat) : Poll :=
  if w.version ≠ seen then .changed else if w.isOpen then .pending else .closed

@[simp] theorem value_write (w : Watch α) (a : α) : (w.write a).value = a := rfl

@[simp] theorem value_writeIfNew [DecidableEq α] (w : Watch α) (a : α) :
    (w.writeIfNew a).value = a := by
  unfold writeIfNew
  split
  · assumption
  · rfl

@[simp] theorem value_close (w : Watch α) : w.close.value = w.value := rfl

theorem poll_eq_changed_iff (w : Watch α) (seen : Nat) :
    w.poll seen = .changed ↔ w.version ≠ seen := by
  unfold poll
  split
  · simp [*]
  · split <;> simp [*]

theorem poll_eq_closed_iff (w : Watch α) (seen : Nat) :
    w.poll seen = .closed ↔ w.version = seen ∧ w.isOpen = false := by
  unfold poll
  split
  · simp [*]
  · split <;> simp_all

theorem poll_eq_pending_iff (w : Watch α) (seen : Nat) :
    w.poll seen = .pending ↔ w.version = seen ∧ w.isOpen = true := by
  unfold poll
  split
  · simp [*]
  · split <;> simp_all

end Watch

end WifiStation
