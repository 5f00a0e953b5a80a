import WifiStation.App.Message

/-!
# WifiStation.App.Tracker

What an app learns from the states the daemon pushes: each push is compared with the one before,
and a change of the link's state is an event. Before the first push everything is unknown.
-/

namespace WifiStation.App

/-- A change of the link. -/
inductive NetworkEvent where
  | supplicantConnected
  | supplicantDisconnected
  deriving DecidableEq, Repr, Inhabited

/-- The last state pushed. -/
structure Tracker where
  current : NetworkState := {}
  deriving DecidableEq, Repr, Inhabited

/-- The event of going from one state to another. -/
def networkEvent? (before after : NetworkState) : Option NetworkEvent :=
  if after.supplicant.state = before.supplicant.state then none
  else if after.supplicant.is .active then some .supplicantConnected
  else some .supplicantDisconnected

/-- Takes a push into account. -/
def Tracker.update (t : Tracker) (next : NetworkState) : Tracker × Option NetworkEvent :=
  if next = t.current then (t, none) else (⟨next⟩, networkEvent? t.current next)

/-- Takes pushes into account one after the other and collects the events. -/
def Tracker.run (t : Tracker) : List NetworkState → Tracker × List NetworkEvent
  | [] => (t, [])
  | s :: rest =>
    let step := t.update s
    let others := run step.1 rest
    (others.1, step.2.toList ++ others.2)

end WifiStation.App
