import WifiStation.Dhcp.ClientService

/-!
# WifiStation.Dhcp.Trial

A client service without a network and without an interface.

All that happens to it happens at time 0. A `Trial` keeps what the service has done to the outside,
and can have sending or configuring fail: sending once, configuring until further notice.
-/

namespace WifiStation.Dhcp

/-- A service and its surroundings. -/
structure Trial where
  service : ClientService
  /-- How many transaction ids could have been picked. -/
  picked : Nat := 0
  sendFails : Bool := false
  configureFails : Bool := false
  /-- What was done, in order. -/
  effects : List Effect := []

namespace Trial

/-- Whether an effect is a packet that is sent. -/
def isSend : Effect → Bool
  | .send _ => true
  | _ => false

/-- Whether an effect succeeds. -/
def succeeds (t : Trial) (e : Effect) : Bool :=
  if isSend e then !t.sendFails else !t.configureFails

/-- The service takes an input. A packet that cannot be sent is not seen. -/
def take (fresh : Nat → UInt32) (t : Trial) (input : ServiceInput) : Trial :=
  let (service, effects) := t.service.step input 0 (fresh t.picked) t.succeeds
  { t with
    service
    picked := t.picked + 1
    sendFails := t.sendFails && !effects.any isSend
    effects := t.effects ++ effects.filter fun e => !isSend e || t.succeeds e }

/-- Lets timers run as long as something is due, a number of times at most. -/
def settle (fresh : Nat → UInt32) : Nat → Trial → Trial
  | 0, t => t
  | n + 1, t => if t.service.isDue 0 then settle fresh n (t.take fresh .timer) else t

end Trial

end WifiStation.Dhcp
