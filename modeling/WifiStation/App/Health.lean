import WifiStation.App.Message
import WifiStation.Json.Value

/-!
# WifiStation.App.Health

The health of the configured apps: one slot per app, made at the start and never removed, that
keeps what the app reported last.
-/

namespace WifiStation.App

/-- What is known about one app. -/
structure AppStatus where
  name : String
  app : StatePair := {}
  connectivity : StatePair := {}
  deriving DecidableEq, Repr, Inhabited

/-- The slots of all apps, by index. -/
structure Health where
  slots : List AppStatus
  deriving DecidableEq, Repr, Inhabited

/-- The slot after an update: only what the update holds is replaced. -/
def AppStatus.apply (s : AppStatus) (u : AppUpdate) : AppStatus :=
  { s with app := u.app.getD s.app, connectivity := u.connectivity.getD s.connectivity }

namespace Health

/-- Slots for apps that have reported nothing. -/
def ofNames (names : List String) : Health := ⟨names.map fun name => { name }⟩

/-- The slot of an index. -/
def get? (h : Health) (index : Nat) : Option AppStatus := h.slots[index]?

/-- Whether an update names a slot. -/
def accepts (h : Health) (u : AppUpdate) : Bool := u.index.any fun i => i.toNat < h.slots.length

/-- Takes an update into account; one that names no slot changes nothing. -/
def apply (h : Health) (u : AppUpdate) : Health :=
  match u.index with
  | some i => ⟨h.slots.modify i.toNat (·.apply u)⟩
  | none => h

@[simp] theorem length_apply (h : Health) (u : AppUpdate) :
    (h.apply u).slots.length = h.slots.length := by
  unfold apply
  split <;> simp

/-- Takes the message of a frame into account: only reports of apps count. -/
def applyMessage (h : Health) : Option Message → Health
  | some (.app u) => h.apply u
  | _ => h

/-- The report of one app. -/
def report (s : AppStatus) : Json :=
  .object [("name", .string s.name),
    ("appstate", .nat s.app.state.toNat),
    ("apperror", .nat s.app.error.toNat),
    ("connectivitystate", .nat s.connectivity.state.toNat),
    ("connectivityerror", .nat s.connectivity.error.toNat)]

/-- The report of all apps. -/
def json (h : Health) : Json := .array (h.slots.map report)

end Health

end WifiStation.App
